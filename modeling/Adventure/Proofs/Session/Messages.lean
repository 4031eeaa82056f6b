import Adventure.Proofs.Registry.Overflow
import Adventure.Proofs.Session.Operations

/-! # What failed calls leave behind

A call that fails queues its message and changes nothing else. So scripts find in the queue what has
failed since they last took from it.

* `fault?`, `Reports` — how a call ends, and what it does to the queue.
* `stops_iff` — the one call that can stop the program.
* `Present`, `Verdict` — what the faults of calls about properties depend on.
* `failures` — the messages of the calls of a run that fail.
* `failures_operations` — the queue holds these, whatever has been done.
-/

namespace Adventure.Session

open Property (Kind)

variable {s : Session} {owner : Owner} {name : String}

/-! ## Faults -/

/-- The fault of a computation that has failed. -/
def faultOf {ε α : Type} : Except ε α → Option ε
  | .ok _ => none
  | .error fault => some fault

/-- The fault of a call, if it fails. -/
def fault? (s : Session) : Call → Option ScriptFault
  | .getProperty owner name => faultOf (s.getProperty owner name).1
  | .getText owner name => faultOf (s.getText owner name).1
  | .getTextWithin owner name capacity => faultOf (s.getTextWithin owner name capacity).1
  | .setProperty owner name value => faultOf (s.setProperty owner name value).1
  | .setText owner name value => faultOf (s.setText owner name value).1
  | .readField handle offset => faultOf (s.readField handle offset).1
  | .writeField handle offset value => faultOf (s.writeField handle offset value).1
  | .readArray symbol offset => faultOf (s.readArray symbol offset).1
  | .writeArray symbol offset value => faultOf (s.writeArray symbol offset value).1
  | .addReference handle => faultOf (s.addReference handle).1
  | .release handle => faultOf (s.release handle).1
  | .takeErrors => none

variable {ε ε' α β : Type}

theorem faultOf_eq_some_iff {x : Except ε α} {fault : ε} :
    faultOf x = some fault ↔ x = .error fault := by
  cases x <;> simp [faultOf]

theorem faultOf_eq_none_iff {x : Except ε α} : faultOf x = none ↔ ∃ a, x = .ok a := by
  cases x <;> simp [faultOf]

theorem faultOf_map (x : Except ε α) (f : α → β) : faultOf (x.map f) = faultOf x := by
  cases x with
  | ok a => rfl
  | error fault => rfl

theorem faultOf_concluded (result : Except ScriptFault (α × Session)) :
    faultOf (s.concluded result).1 = faultOf result := by
  cases result with
  | ok left => rfl
  | error fault => rfl

theorem faultOf_mapError (x : Except ε α) (f : ε → ε') :
    faultOf (x.mapError f) = (faultOf x).map f := by
  cases x with
  | ok a => rfl
  | error fault => rfl

/-- What is done with the result of the last step does not matter to the fault. -/
theorem faultOf_bind_map {γ : Type} (x : Except ε α) (r : Except ε β) (f : α → β → γ) :
    faultOf (x.bind fun a => r.map (f a)) = faultOf (x.bind fun _ => r) := by
  cases x with
  | error fault => rfl
  | ok a =>
    cases r with
    | ok b => rfl
    | error fault => rfl

/-! ## The queue of messages -/

/-- What a call does to the queue: a fault adds its message and changes nothing else, and success
adds none. A fault that stops the program leaves no message behind. -/
structure Reports (s : Session) (fault? : Option ScriptFault) (after : Session) : Prop where
  failed : ∀ fault, fault? = some fault → fault.isOverflow = false →
    after = { s with errors := s.errors ++ [fault.message] }
  stopped : ∀ fault, fault? = some fault → fault.isOverflow = true → after = s
  succeeded : fault? = none → after.errors = s.errors

theorem reports_concluded {result : Except ScriptFault (α × Session)}
    (kept : ∀ a after, result = .ok (a, after) → after.errors = s.errors) :
    s.Reports (faultOf (s.concluded result).1) (s.concluded result).2 := by
  cases result with
  | ok left => exact ⟨nofun, nofun, fun _ => kept left.1 left.2 rfl⟩
  | error fault =>
    refine ⟨?_, ?_, nofun⟩
    · rintro _ ⟨⟩ live
      exact if_neg (live ▸ Bool.false_ne_true)
    · rintro _ ⟨⟩ stopped
      exact if_pos stopped

/-- A call that changes a session by what it finds reports what it does not find. -/
theorem reports_map {found : Except ScriptFault β} {f : β → α × Session}
    (kept : ∀ b, (f b).2.errors = s.errors) :
    s.Reports (faultOf (s.concluded (found.map f)).1) (s.concluded (found.map f)).2 := by
  refine reports_concluded ?_
  intro a after changed
  obtain ⟨b, -, same⟩ := except_map_eq_ok.mp changed
  have errors := kept b
  rwa [same] at errors

theorem errors_withOverrides (s : Session) (m : PropertyMap) (owner : Owner) :
    (s.withOverrides m owner).errors = s.errors := by
  cases owner with
  | _ => rfl

theorem reports_askProperty (s : Session) (o : Owner)
    (ask : Property.Layers → Except Property.Fault α) :
    s.Reports (faultOf (s.askProperty o ask).1) (s.askProperty o ask).2 := by
  rw [askProperty_eq]
  exact reports_map fun _ => rfl

theorem reports_askRegistry (s : Session) (answer : Except Registry.Fault α) :
    s.Reports (faultOf (s.askRegistry answer).1) (s.askRegistry answer).2 := by
  rw [askRegistry_eq]
  exact reports_map fun _ => rfl

theorem reports_setTo (s : Session) (wanted : Kind) (o : Owner) (name text : String) :
    s.Reports (faultOf (s.setTo wanted o name text).1) (s.setTo wanted o name text).2 := by
  rw [setTo_eq]
  exact reports_map fun l => errors_withOverrides s l.overrides o

theorem reports_call {c : Call} (asks : c ≠ .takeErrors) : s.Reports (s.fault? c) (s.call c) := by
  cases c with
  | getProperty owner name => exact reports_askProperty s owner _
  | getText owner name => exact reports_askProperty s owner _
  | getTextWithin owner name capacity => exact reports_askProperty s owner _
  | setProperty owner name value => exact reports_setTo s _ owner name _
  | setText owner name value => exact reports_setTo s _ owner name _
  | readField handle offset => exact reports_askRegistry s _
  | readArray symbol offset => exact reports_askRegistry s _
  | writeField handle offset value =>
    simp only [fault?, call, writeField_eq]
    exact reports_map fun _ => rfl
  | writeArray symbol offset value =>
    simp only [fault?, call, writeArray_eq]
    exact reports_map fun _ => rfl
  | addReference handle =>
    simp only [fault?, call, addReference_eq]
    exact reports_map fun _ => rfl
  | release handle =>
    simp only [fault?, call, release_eq]
    exact reports_map fun _ => rfl
  | takeErrors => exact absurd rfl asks

/-- Copying a text is asking for it, and a fault leaves the buffer alone. -/
theorem copyText_spec (s : Session) (owner : Owner) (name buffer : String) (capacity : Nat) :
    let copied := s.copyText owner name buffer capacity
    copied.1.2 = s.call (.getTextWithin owner name capacity) ∧
      faultOf copied.1.1 = s.fault? (.getTextWithin owner name capacity) ∧
      (faultOf copied.1.1 ≠ none → copied.2 = buffer) := by
  simp only [copyText, call, fault?]
  cases s.getTextWithin owner name capacity with
  | mk result after =>
    cases result with
    | ok text => exact ⟨rfl, rfl, fun failed => absurd rfl failed⟩
    | error fault => exact ⟨rfl, rfl, fun _ => rfl⟩

/-! ## Faults about properties -/

/-- What a call about a property is about. -/
structure Subject where
  owner : Owner
  name : String
  wanted : Kind

def Call.subject? : Call → Option Subject
  | .getProperty owner name | .setProperty owner name _ => some ⟨owner, name, .integer⟩
  | .getText owner name | .getTextWithin owner name _ | .setText owner name _ =>
    some ⟨owner, name, .string⟩
  | _ => none

/-- Whether there is such an owner. -/
def Present (s : Session) : Owner → Prop
  | .character i => i < s.game.characters.length
  | .inventory i => i < s.game.inventory.length
  | .hotspot i => ∃ c, s.room = some c ∧ i < c.data.hotspots.length
  | .object i => ∃ c, s.room = some c ∧ i < c.data.objects.length
  | .region i => ∃ c, s.room = some c ∧ i < c.data.regions.length
  | .room => ∃ c, s.room = some c

/-- How a call about a property ends: there has to be an owner, then a declaration under some
spelling of the name, then the family of the accessor has to suit it. -/
structure Verdict (s : Session) (q : Subject) (fault? : Option ScriptFault) : Prop where
  noEntity : fault? = some (.property (.noEntity q.owner.name)) ↔ ¬ s.Present q.owner
  unknown : fault? = some (.property (.unknown q.name)) ↔
    s.Present q.owner ∧ ∀ d ∈ s.game.schema.toList, Text.fold d.name ≠ Text.fold q.name
  mismatch : fault? = some (.property (.mismatch q.name q.wanted)) ↔
    s.Present q.owner ∧ ∃ d ∈ s.game.schema.toList,
      Text.fold d.name = Text.fold q.name ∧ d.kind.isText ≠ q.wanted.isText
  ok : fault? = none ↔ s.Present q.owner ∧ ∃ d ∈ s.game.schema.toList,
      Text.fold d.name = Text.fold q.name ∧ d.kind.isText = q.wanted.isText

theorem layersAt_isSome {authored : Option PropertyMap} {overrides : List PropertyMap} {i : Nat} :
    (layersAt authored overrides i).isSome ↔ authored.isSome ∧ i < overrides.length := by
  cases authored with
  | none => simp [layersAt]
  | some texts =>
    by_cases low : i < overrides.length
    · simp [layersAt, low]
    · simp [layersAt, low]

/-- In good standing every owner has a place for what scripts set, and nothing else has. -/
theorem Standing.layers?_isSome (standing : s.Standing) (owner : Owner) :
    (s.layers? owner).isSome ↔ s.Present owner := by
  cases owner with
  | character i =>
    by_cases low : i < s.game.characters.length
    · simp [layers?, Present, layersAt_isSome, standing.characters, low]
    · simp [layers?, Present, low]
  | inventory i => simp [layers?, Present, layersAt_isSome, standing.items]
  | _ =>
    cases here : s.room with
    | none => simp [layers?, Present, here]
    | some c =>
      obtain ⟨hotspots, objects, regions⟩ := (standing.inside c here).status
      simp [layers?, Present, here, layersAt_isSome, hotspots, objects, regions, Capped.get?,
        Capped.length]

/-- A call about a property looks for the owner, and then for the declaration. -/
theorem fault?_of_subject {c : Call} {q : Subject} (asks : c.subject? = some q) :
    s.fault? c = (faultOf ((s.layers q.owner).bind fun _ =>
      s.game.schema.resolve q.name q.wanted)).map .property := by
  -- what is done with the declaration does not matter to the fault
  have asked {α : Type} (f : Property.Layers → Property.Declaration → α) :
      faultOf (s.askProperty q.owner fun l =>
        (s.game.schema.resolve q.name q.wanted).map (f l)).1 =
      (faultOf ((s.layers q.owner).bind fun _ =>
        s.game.schema.resolve q.name q.wanted)).map .property := by
    rw [askProperty_eq, faultOf_concluded, faultOf_map, faultOf_mapError, faultOf_bind_map]
  have set (text : String) : faultOf (s.setTo q.wanted q.owner q.name text).1 =
      (faultOf ((s.layers q.owner).bind fun _ =>
        s.game.schema.resolve q.name q.wanted)).map .property := by
    rw [setTo_eq, faultOf_concluded, faultOf_map, faultOf_mapError, faultOf_bind_map]
  cases c with
  | getProperty owner name | getText owner name =>
    obtain rfl := Option.some.inj asks
    exact asked _
  | setProperty owner name value | setText owner name value =>
    obtain rfl := Option.some.inj asks
    exact set _
  | getTextWithin owner name capacity =>
    obtain rfl := Option.some.inj asks
    have within (l : Property.Layers) :
        (l.text s.game.schema name).map (Property.truncate · capacity) =
          (s.game.schema.resolve name .string).map
            fun d => Property.truncate (l.valueOf d) capacity := by
      rw [Property.Layers.text]
      cases s.game.schema.resolve name .string with
      | ok d => rfl
      | error fault => rfl
    simp only [fault?, getTextWithin, within]
    exact asked _
  | _ => cases asks

theorem verdict_call (standing : s.Standing) {c : Call} {q : Subject}
    (asks : c.subject? = some q) : s.Verdict q (s.fault? c) := by
  have there := standing.layers?_isSome q.owner
  -- the fault is that of looking for the owner, or else that of looking for the declaration
  have ends (fault : Property.Fault) :
      s.fault? c = some (.property fault) ↔
        ((s.layers q.owner).bind fun _ => s.game.schema.resolve q.name q.wanted) =
          .error fault := by
    rw [fault?_of_subject asks, ← faultOf_eq_some_iff]
    simp
  have succeeds : s.fault? c = none ↔ ∃ d,
      ((s.layers q.owner).bind fun _ => s.game.schema.resolve q.name q.wanted) = .ok d := by
    rw [fault?_of_subject asks, ← faultOf_eq_none_iff, Option.map_eq_none_iff]
  cases found : s.layers? q.owner with
  | none =>
    have absent : ¬ s.Present q.owner := by
      rw [← there, found]
      exact nofun
    simp only [layers, found, Except.bind] at ends succeeds
    constructor
    case noEntity => simp [ends, absent]
    case unknown => simp [ends, absent]
    case mismatch => simp [ends, absent]
    case ok => simp [succeeds, absent]
  | some l =>
    have present : s.Present q.owner := by rw [← there, found]; rfl
    simp only [layers, found, Except.bind] at ends succeeds
    constructor
    case noEntity => simp [ends, present, Property.resolve_ne_noEntity]
    case unknown => simp only [ends, present, true_and, Property.resolve_eq_unknown_iff]
    case mismatch => simp only [ends, present, true_and, Property.resolve_eq_mismatch_iff]
    case ok => simp only [succeeds, present, true_and, Property.resolve_eq_ok_iff, and_assoc]

/-! ## Calls that stop the program -/

/-- Whether a call needs a number that does not fit its bits. -/
def Stops (s : Session) (c : Call) : Prop :=
  ∃ fault, s.fault? c = some fault ∧ fault.isOverflow = true

/-- A call about the registry stops the program if its answer is that it does. -/
theorem stops_of_fault?_eq {c : Call} {answer : Except Registry.Fault α}
    (told : s.fault? c = faultOf (answer.mapError ScriptFault.registry)) :
    s.Stops c ↔ answer = .error .overflow := by
  unfold Stops
  rw [told]
  cases answer with
  | ok a => simp [faultOf]
  | error fault => simp [faultOf, ScriptFault.isOverflow]

theorem not_stops_of_asked {c : Call} {answer : Except Registry.Fault α}
    (known : answer ≠ .error .overflow) (told : s.fault? c = faultOf (s.askRegistry answer).1) :
    ¬ s.Stops c := by
  rw [askRegistry_eq, faultOf_concluded, faultOf_map] at told
  exact mt (stops_of_fault?_eq told).mp known

theorem not_stops_of_subject {c : Call} {q : Subject} (asks : c.subject? = some q) :
    ¬ s.Stops c := by
  rintro ⟨fault, failed, stops⟩
  rw [fault?_of_subject asks] at failed
  obtain ⟨own, -, rfl⟩ := Option.map_eq_some_iff.mp failed
  cases stops

theorem stops_addReference_iff (bounded : s.registry.Bounded) {handle : Handle} :
    s.Stops (.addReference handle) ↔
      ∃ l, s.registry.live handle = .ok l ∧ l.references = Registry.maxReferences := by
  rw [← bounded.addReference_eq_overflow_iff]
  refine stops_of_fault?_eq ?_
  rw [fault?, addReference_eq, faultOf_concluded, faultOf_map]

/-- No other call needs a number that does not fit its bits. -/
theorem not_stops {c : Call} (other : ∀ handle, c ≠ .addReference handle) : ¬ s.Stops c := by
  cases c with
  | getProperty owner name | getText owner name | getTextWithin owner name capacity
    | setProperty owner name value | setText owner name value => exact not_stops_of_subject rfl
  | readField handle offset =>
    exact not_stops_of_asked (s.registry.readField_ne_overflow s.world handle offset) rfl
  | readArray symbol offset =>
    refine not_stops_of_asked ?_ rfl
    exact except_bind_ne_error (s.registry.symbols.array_ne_overflow symbol) fun array _ =>
      array.read_ne_overflow s.world offset
  | writeField handle offset value =>
    rw [stops_of_fault?_eq (by rw [fault?, writeField_eq, faultOf_concluded, faultOf_map])]
    exact s.registry.writeField_ne_overflow _ _ _ _
  | writeArray symbol offset value =>
    rw [stops_of_fault?_eq (by rw [fault?, writeArray_eq, faultOf_concluded, faultOf_map])]
    exact except_bind_ne_error (s.registry.symbols.array_ne_overflow symbol) fun array _ =>
      array.write_ne_overflow _ _ _
  | addReference handle => exact absurd rfl (other handle)
  | release handle =>
    rw [stops_of_fault?_eq (by rw [fault?, release_eq, faultOf_concluded, faultOf_map])]
    exact s.registry.release_ne_overflow _ _
  | takeErrors => exact fun ⟨_, failed, _⟩ => nomatch failed

/-- The program stops where one reference more is counted than can be, and nowhere else. -/
theorem stops_iff (bounded : s.registry.Bounded) {c : Call} : s.Stops c ↔
    ∃ handle l, c = .addReference handle ∧ s.registry.live handle = .ok l ∧
      l.references = Registry.maxReferences := by
  constructor
  · intro stops
    by_cases counts : ∃ handle, c = .addReference handle
    · obtain ⟨handle, rfl⟩ := counts
      obtain ⟨l, live, full⟩ := (stops_addReference_iff bounded).mp stops
      exact ⟨handle, l, rfl, live, full⟩
    · exact absurd stops (not_stops (not_exists.mp counts))
  · rintro ⟨handle, l, rfl, live, full⟩
    exact (stops_addReference_iff bounded).mpr ⟨l, live, full⟩

/-! ## Runs -/

/-- The call that takes the messages from the queue. -/
abbrev Operation.take : Operation := .deed (.call .takeErrors)

/-- The message that an operation queues, if it is a call that fails and does not stop the
program. -/
def failure? (s : Session) : Operation → Option String
  | .deed (.call c) => ((s.fault? c).filter (!·.isOverflow)).map (·.message)
  | .start .. | .deed (.move _) => none

/-- The messages of the calls of a run that fail, in their order. -/
def failures (s : Session) : List Operation → List String
  | [] => []
  | first :: rest => (s.failure? first).toList ++ failures (s.operate first) rest

theorem keeps_errors_enrolStage (errors : List String) (steps : Session → List Enrolment) :
    Keeps (·.errors = errors) (enrolStage steps) := fun _ same => same

theorem keeps_errors_fontStage (errors : List String) (accepts : Font.Request → Bool) :
    Keeps (·.errors = errors) (fontStage accepts) := by
  intro a same
  rw [fontStage_session]
  exact same

theorem errors_start (s : Session) (b : Bundle) (accepts : Font.Request → Bool)
    (host : Plugin.Host) : (s.start b accepts host).2.session.errors = s.errors := by
  unfold start
  split
  · have kept : Keeps (·.errors = s.errors) (runStages (stages b accepts host)) := by
      refine keeps_runStages ?_
      simp only [stages, List.forall_mem_cons, List.not_mem_nil, false_implies, implies_true,
        and_true]
      exact ⟨fun _ same => same, keeps_stage fun _ same => same, keeps_errors_enrolStage _ _,
        keeps_stage fun _ same => same, keeps_errors_fontStage _ _, keeps_errors_enrolStage _ _,
        fun _ same => same, keeps_stage fun _ same => same, fun _ same => same,
        fun _ same => same⟩
    exact kept { session := s } rfl
  · rfl

theorem errors_leaveRoom (s : Session) : s.leaveRoom.errors = s.errors := by
  rw [leaveRoom_eq]

theorem errors_enterRoom (s : Session) (number : Int32) (room : Room) :
    (s.enterRoom number room).2.errors = s.errors := by
  unfold enterRoom
  cases s.prepareEntry number room with
  | error fault => rfl
  | ok entry =>
    simp only
    cases bindAll entry.names s.leaveRoom.registry with
    | mk result registry =>
      cases result with
      | error fault => exact errors_leaveRoom s
      | ok _ => exact errors_leaveRoom s

/-- Nothing but calls that fail adds to the queue, and nothing but taking removes from it. -/
theorem errors_operate {o : Operation} (keeps : o ≠ .take) :
    (s.operate o).errors = s.errors ++ (s.failure? o).toList := by
  cases o with
  | start b accepts => exact (errors_start s b accepts {}).trans (List.append_nil _).symm
  | deed d =>
    cases d with
    | move m =>
      cases m with
      | leave => exact (errors_leaveRoom s).trans (List.append_nil _).symm
      | enter number room => exact (errors_enterRoom s number room).trans (List.append_nil _).symm
    | call c =>
      have reports : s.Reports (s.fault? c) (s.call c) :=
        reports_call fun takes => keeps (takes ▸ rfl)
      simp only [operate, deed, failure?]
      cases ended : s.fault? c with
      | none => simpa using reports.succeeded ended
      | some fault =>
        cases stops : fault.isOverflow with
        | false =>
          rw [reports.failed fault ended stops]
          simp [Option.filter, stops]
        | true =>
          rw [reports.stopped fault ended stops]
          simp [Option.filter, stops]

theorem errors_operations {l : List Operation} (keep : ∀ o ∈ l, o ≠ .take) :
    (s.operations l).errors = s.errors ++ s.failures l := by
  induction l generalizing s with
  | nil => exact (List.append_nil _).symm
  | cons first rest hyp =>
    obtain ⟨here, later⟩ := List.forall_mem_cons.mp keep
    show ((s.operate first).operations rest).errors = _
    rw [hyp later, errors_operate here, failures, List.append_assoc]

/-- Nothing is queued in the beginning, and nothing after the messages have been taken. -/
theorem errors_of_taken {config : Config} {l : List Operation}
    (taken : ∀ last ∈ l.getLast?, last = .take) :
    ((Session.new config).operations l).errors = [] := by
  cases List.eq_nil_or_concat l with
  | inl nothing => rw [nothing]; rfl
  | inr more =>
    obtain ⟨front, last, rfl⟩ := more
    obtain rfl := taken last (by simp)
    rw [operations, List.concat_eq_append, List.foldl_append]
    rfl

/-- Whatever has been done to a new session, calls report what goes wrong and do nothing else about
it, unless they stop the program: one reference more than can be counted does, and nothing else.
What scripts take from the queue are the messages of the calls that have failed since they last did
so. A call about a property fails exactly for want of an owner, a declaration, or a type that suits
it. -/
theorem failures_operations (config : Config) (l : List Operation) :
    let s := (Session.new config).operations l
    (∀ c, c ≠ .takeErrors → s.Reports (s.fault? c) (s.call c)) ∧
      (∀ c, s.Stops c ↔ ∃ handle l, c = .addReference handle ∧ s.registry.live handle = .ok l ∧
        l.references = Registry.maxReferences) ∧
      (∀ owner name buffer capacity,
        let copied := s.copyText owner name buffer capacity
        copied.1.2 = s.call (.getTextWithin owner name capacity) ∧
          faultOf copied.1.1 = s.fault? (.getTextWithin owner name capacity) ∧
          (faultOf copied.1.1 ≠ none → copied.2 = buffer)) ∧
      ((∀ last ∈ l.getLast?, last = .take) → ∀ later, (∀ o ∈ later, o ≠ .take) →
        (s.operations later).takeErrors.1 = s.failures later) ∧
      ∀ c q, c.subject? = some q → s.Verdict q (s.fault? c) := by
  intro s
  have underway : s.Underway := (underway_new config).operations l
  refine ⟨fun c => reports_call, fun c => stops_iff underway.bounded, copyText_spec s, ?_,
    fun c q => verdict_call underway.standing⟩
  intro taken later keep
  show (s.operations later).errors = s.failures later
  rw [errors_operations keep, errors_of_taken taken, List.nil_append]

/-- Once the message about a room that is not there has been taken, that about a handle is left. -/
theorem failures_operations_taken :
    let front : List Operation := [.deed (.call (.getProperty .room "Weight")), .take]
    let later : List Operation := [.deed (.call (.readField 1 0))]
    (∀ last ∈ front.getLast?, last = .take) ∧ (∀ o ∈ later, o ≠ .take) ∧
      (((Session.new {}).operations front).operations later).takeErrors.1 =
        ["invalid managed object handle 1"] := by
  intro front later
  have taken : ∀ last ∈ front.getLast?, last = .take := by simp [front]
  have keep : ∀ o ∈ later, o ≠ .take := by simp [later]
  refine ⟨taken, keep, ?_⟩
  rw [(failures_operations {} front).2.2.2.1 taken later keep]
  decide +kernel

end Adventure.Session
