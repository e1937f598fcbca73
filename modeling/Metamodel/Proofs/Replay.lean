import Metamodel.Proofs.Bodies
import Metamodel.Proofs.Simulation

/-!
# Replaying scripts

A script can be run on two images that a renaming relates, with ids in it that stand for each other
and with handles that are bound alike. If it makes no collection and asks about neither slots nor
the lock, then it is answered alike on both, step by step and in the bodies of its declarations.

Slots and garbage are therefore of no account. In particular, nothing that is asked about what has
survived a collection tells whether the collection was made.

## Implementation notes

The reports between the answers are left out: the numbers of slots and of live objects differ from
image to image.
-/

namespace Metamodel

open Session

namespace Session

/-- Two references are to objects that stand for each other, or by the same handle. -/
inductive Reference.Alike (f : Renaming) : Reference → Reference → Prop
  | slot {id id' : ObjectId} : f.Sends id id' → Alike f (.slot id) (.slot id')
  | handle (name : String) : Alike f (.handle name) (.handle name)

/-- The same handles are bound, to objects that stand for each other. -/
def Bindings.Alike (f : Renaming) (bindings others : Bindings) : Prop :=
  ∀ name, f.SendsMaybe (bindings.lookup name) (others.lookup name)

/-- Two scripts are of the same structural calls, on objects that stand for each other. -/
inductive Script.Alike (f : Renaming) : Script → Script → Prop
  | done : Alike f .done .done
  | call {operation operation' : Call Reference} {rest rest' : Script} (options : StepOptions) :
      operation.Alike (Reference.Alike f) operation' → Alike f rest rest' →
      Alike f (.call operation options rest) (.call operation' options rest')
  | declare {declaration declaration' : Declaration Reference} {body body' rest rest' : Script}
      (options : StepOptions) : declaration.Alike (Reference.Alike f) declaration' →
      Alike f body body' → Alike f rest rest' →
      Alike f (.declare declaration options body rest) (.declare declaration' options body' rest')
  | guarded {inner inner' rest rest' : Script} : Alike f inner inner' → Alike f rest rest' →
      Alike f (.guarded inner rest) (.guarded inner' rest')
  | unknown {rest rest' : Script} : Alike f rest rest' → Alike f (.unknown rest) (.unknown rest')

/-- Two steps end alike. -/
inductive Outcome.Alike (f : Renaming) : Outcome → Outcome → Prop
  | value {value value' : Value} : value.Alike f value' → Alike f (.value value) (.value value')
  | refused {fault fault' : Fault} : fault.SameKind fault' →
      Alike f (.refused fault) (.refused fault')
  | unbound (name : String) : Alike f (.unbound name) (.unbound name)
  | unknownOperation : Alike f .unknownOperation .unknownOperation

/-- Two scripts are answered alike, whatever is reported in between. -/
inductive Transcript.Alike (f : Renaming) : Transcript → Transcript → Prop
  | done : Alike f .done .done
  | answer {outcome outcome' : Outcome} {rest rest' : Transcript} (snapshot snapshot' : Snapshot) :
      outcome.Alike f outcome' → Alike f rest rest' →
      Alike f (.answer outcome snapshot rest) (.answer outcome' snapshot' rest')
  | declared {body body' rest rest' : Transcript} {outcome outcome' : Outcome}
      (snapshot snapshot' : Snapshot) : Alike f body body' → outcome.Alike f outcome' →
      Alike f rest rest' →
      Alike f (.declared body outcome snapshot rest) (.declared body' outcome' snapshot' rest')
  | guarded {inner inner' rest rest' : Transcript} (snapshot snapshot' : Snapshot) :
      Alike f inner inner' → Alike f rest rest' →
      Alike f (.guarded inner snapshot rest) (.guarded inner' snapshot' rest')

namespace Bindings

variable {f g : Renaming} {bindings others : Bindings}

theorem Alike.mono (alike : bindings.Alike f others) (keeps : f.Keeps g) :
    bindings.Alike g others :=
  fun name => keeps.maybe (alike name)

theorem Alike.rebind (alike : bindings.Alike f others) (name : String)
    {id id' : Option ObjectId} (sends : f.SendsMaybe id id') :
    Alike f (bindings.rebind name id) (others.rebind name id') := by
  intro other
  rw [lookup_rebind, lookup_rebind]
  split
  · exact sends
  · exact alike other

theorem Alike.bind (alike : bindings.Alike f others) (name : String) {id id' : ObjectId}
    (sends : f.Sends id id') : Alike f (bindings.bind name id) (others.bind name id') :=
  alike.rebind name (.some sends)

end Bindings

/-- References are looked up alike: both denote an object, or both are by one unbound handle. -/
abbrev Resolved {α β : Type} (related : α → β → Prop) : Except String α → Except String β → Prop :=
  EndAlike Eq related

end Session

section Resolve

variable {f g : Renaming} {bindings others : Bindings} (keeps : f.Keeps g)
  (bound : bindings.Alike g others)
include keeps bound

theorem Session.Reference.Alike.resolve {reference reference' : Reference}
    (alike : reference.Alike f reference') :
    Resolved g.Sends (reference.resolve bindings) (reference'.resolve others) := by
  cases alike with
  | slot sends => exact .answered (keeps _ _ sends)
  | handle name =>
      have sends := bound name
      simp only [Reference.resolve]
      generalize bindings.lookup name = id at sends ⊢
      generalize others.lookup name = id' at sends ⊢
      cases sends with
      | none => exact .refused rfl
      | some sends => exact .answered sends

theorem Session.Reference.Alike.resolve_maybe {reference reference' : Option Reference}
    (alike : Option.Rel (Reference.Alike f) reference reference') :
    Resolved g.SendsMaybe (reference.mapM (Reference.resolve bindings))
      (reference'.mapM (Reference.resolve others)) := by
  cases alike with
  | none => exact .answered .none
  | some alike => exact (alike.resolve keeps bound).map .some

theorem Declaration.Alike.traverse {declaration declaration' : Declaration Reference}
    (alike : declaration.Alike (Reference.Alike f) declaration') :
    Resolved (Declaration.Alike g.Sends) (declaration.traverse (Reference.resolve bindings))
      (declaration'.traverse (Reference.resolve others)) := by
  cases alike with
  | initializeClass below above =>
      exact (below.resolve keeps bound).bind fun lower =>
        (Reference.Alike.resolve_maybe keeps bound above).bind fun upper =>
          .answered (.initializeClass lower upper)
  | newClass above => exact (Reference.Alike.resolve_maybe keeps bound above).map .newClass

theorem Session.Call.Alike.traverse {operation operation' : Call Reference}
    (alike : operation.Alike (Reference.Alike f) operation') :
    Resolved (Call.Alike g.Sends) (operation.traverse (Reference.resolve bindings))
      (operation'.traverse (Reference.resolve others)) := by
  cases alike with
  | subclass name tag alike => exact (alike.resolve keeps bound).map (.subclass name tag)
  | declare alike => exact (alike.traverse keeps bound).map .declare
  | allocateClass => exact .answered .allocateClass
  | newObject alike => exact (alike.resolve keeps bound).map .newObject
  | assignName name alike => exact (alike.resolve keeps bound).map (.assignName name)
  | singletonClass alike => exact (alike.resolve keeps bound).map .singletonClass
  | pin alike => exact (alike.resolve keeps bound).map .pin
  | unpin alike => exact (alike.resolve keeps bound).map .unpin
  | builtins => exact .answered .builtins
  | inspect structural alike => exact (alike.resolve keeps bound).map (.inspect structural)

end Resolve

namespace Session

section Outcome

variable {f g : Renaming} {outcome outcome' : Outcome}

/-- Whether faults end a script does not depend on what they report. -/
theorem Outcome.Alike.ending? (alike : outcome.Alike f outcome')
    (ends : Bool) (options : StepOptions) :
    Option.Rel Fault.SameKind (outcome.ending? ends options) (outcome'.ending? ends options) := by
  cases alike with
  | value _ => exact .none
  | refused same =>
      simp only [Outcome.ending?]
      split
      · exact .some same
      · exact .none
  | unbound name => exact .none
  | unknownOperation => exact .none

theorem Outcome.Alike.mono (alike : outcome.Alike f outcome') (keeps : f.Keeps g) :
    outcome.Alike g outcome' := by
  cases alike with
  | value alike => exact .value (alike.mono keeps)
  | refused same => exact .refused same
  | unbound name => exact .unbound name
  | unknownOperation => exact .unknownOperation

theorem Transcript.Alike.mono {transcript transcript' : Transcript}
    (alike : transcript.Alike f transcript') (keeps : f.Keeps g) :
    transcript.Alike g transcript' := by
  induction alike with
  | done => exact .done
  | answer snapshot snapshot' outcome _ rest =>
      exact .answer snapshot snapshot' (outcome.mono keeps) rest
  | declared snapshot snapshot' _ outcome _ body rest =>
      exact .declared snapshot snapshot' body (outcome.mono keeps) rest
  | guarded snapshot snapshot' _ _ inner rest => exact .guarded snapshot snapshot' inner rest

end Outcome

variable [ReentrantMutex]

/-- A renaming relates two states of sessions: it relates their images, which have both been
reached, and their handles are bound alike. -/
structure State.Twins (f : Renaming) (state other : State) : Prop where
  image : Image.Resembles f state.image other.image
  bindings : state.bindings.Alike f other.bindings
  reached : ∃ settings calls, Reached settings calls state.image
  reached' : ∃ settings calls, Reached settings calls other.image

/-- Two states go on alike. The renaming is extended to new objects. -/
structure State.Paces (f : Renaming) (state other : State) (g : Renaming) (after after' : State) :
    Prop where
  step : Heap.Lockstep f state.image.heap other.image.heap g after.image.heap after'.image.heap
  twins : State.Twins g after after'

/-- Two runs go on alike, are answered alike, and end alike. -/
structure Run.Paces (f : Renaming) (state other : State) (g : Renaming) (run run' : Run) :
    Prop where
  states : State.Paces f state other g run.state run'.state
  transcript : run.transcript.Alike g run'.transcript
  ending : Option.Rel Fault.SameKind run.ending run'.ending

variable {f g h : Renaming} {state other after after' : State}

namespace State

theorem Twins.paces (twins : Twins f state other) : Paces f state other f state other := by
  obtain ⟨_, _, reached⟩ := twins.reached
  obtain ⟨_, _, reached'⟩ := twins.reached'
  exact ⟨.refl (twins.image.twins reached reached'), twins⟩

namespace Paces

theorem trans {last last' : State} (first : Paces f state other g after after')
    (second : Paces g after after' h last last') : Paces f state other h last last' :=
  ⟨first.step.trans second.step, second.twins⟩

/-- The lock and the journal are of no account. -/
theorem aside (paces : Paces f state other g after after') (lock lock' : StructureLock)
    (journal journal' : Array Event) :
    Paces f state other g { after with image := { after.image with lock, journal } }
      { after' with image := { after'.image with lock := lock', journal := journal' } } where
  step := paces.step
  twins := by
    obtain ⟨image, bindings, ⟨_, _, reached⟩, ⟨_, _, reached'⟩⟩ := paces.twins
    exact {
      image := ⟨image.heap, image.anchor, image.root, image.objectClass, image.moduleClass⟩
      bindings := bindings
      reached := ⟨_, _, reached.aside lock journal⟩
      reached' := ⟨_, _, reached'.aside lock' journal'⟩ }

theorem report (paces : Paces f state other g after after') :
    Paces f state other g after.report.2 after'.report.2 :=
  paces.aside _ _ _ _

theorem hold (paces : Paces f state other g after after') :
    Paces f state other g after.hold after'.hold :=
  paces.aside _ _ _ _

theorem unhold (paces : Paces f state other g after after') :
    Paces f state other g after.unhold after'.unhold :=
  paces.aside _ _ _ _

/-- Handles are bound on both sides. -/
theorem withBindings (paces : Paces f state other g after after') {bindings others : Bindings}
    (alike : bindings.Alike g others) :
    Paces f state other g { after with bindings } { after' with bindings := others } :=
  ⟨paces.step, { paces.twins with bindings := alike }⟩

theorem bindAnswer (paces : Paces f state other g after after') {outcome outcome' : Outcome}
    (alike : outcome.Alike g outcome') (options : StepOptions) :
    Paces f state other g (after.bindAnswer options outcome)
      (after'.bindAnswer options outcome') := by
  unfold State.bindAnswer
  cases options.handle with
  | none => exact paces
  | some name =>
      cases alike with
      | value alike =>
          cases alike with
          | id sends => exact paces.withBindings (paces.twins.bindings.bind name sends)
          | _ => exact paces
      | _ => exact paces

end Paces

variable {call call' : Call ObjectId}

theorem Twins.perform (twins : Twins f state other) (alike : call.Alike f.Sends call') :
    Image.Paces f state.image other.image (call.perform state.image)
      (call'.perform other.image) := by
  obtain ⟨_, _, reached⟩ := twins.reached
  obtain ⟨_, _, reached'⟩ := twins.reached'
  exact alike.paces twins.image reached reached'

/-- Alike calls that have been answered lead to alike states. -/
theorem Twins.answered (twins : Twins f state other) {value value' : Value} {image image' : Image}
    (step : Heap.Lockstep f state.image.heap other.image.heap g image.heap image'.heap)
    (resembles : Image.Resembles g image image')
    (performed : call.perform state.image = .ok value image)
    (performed' : call'.perform other.image = .ok value' image') :
    Paces f state other g { state with image } { other with image := image' } := by
  obtain ⟨_, _, reached⟩ := twins.reached
  obtain ⟨_, _, reached'⟩ := twins.reached'
  exact ⟨step, resembles, twins.bindings.mono step.keeps, ⟨_, _, reached.answered performed⟩,
    ⟨_, _, reached'.answered performed'⟩⟩

/-- A call of a script keeps pace, after its references have been looked up. -/
theorem Twins.execute (twins : Twins g state other) (keeps : f.Keeps g)
    {operation operation' : Call Reference}
    (alike : operation.Alike (Reference.Alike f) operation') :
    ∃ h : Renaming,
      Paces g state other h (state.execute operation).2 (other.execute operation').2 ∧
        (state.execute operation).1.Alike h (other.execute operation').1 := by
  have found := alike.traverse keeps twins.bindings
  unfold State.execute
  generalize operation.traverse (Reference.resolve state.bindings) = call at found ⊢
  generalize operation'.traverse (Reference.resolve other.bindings) = call' at found ⊢
  cases found with
  | refused same =>
      subst same
      exact ⟨g, twins.paces, .unbound _⟩
  | @answered call call' alike =>
      have paces := twins.perform alike
      generalize performed : call.perform state.image = result at paces
      generalize performed' : call'.perform other.image = result' at paces
      cases paces with
      | refused same =>
          simp only [performed, performed']
          exact ⟨g, twins.paces, .refused same⟩
      | @answered h _ _ _ _ step resembles alike =>
          simp only [performed, performed']
          exact ⟨h, twins.answered step resembles performed performed', .value alike⟩

/-- So does a declaration, up to its body. -/
theorem Twins.declare (twins : Twins f state other)
    {declaration declaration' : Declaration ObjectId}
    (alike : declaration.Alike f.Sends declaration') :
    (∃ fault fault', fault.SameKind fault' ∧
      Image.declare declaration state.image = .error fault state.image ∧
      Image.declare declaration' other.image = .error fault' other.image) ∨
    ∃ (g : Renaming) (id id' : ObjectId) (image image' : Image), g.Sends id id' ∧
      Image.declare declaration state.image = .ok id image ∧
      Image.declare declaration' other.image = .ok id' image' ∧
      Paces f state other g { state with image } { other with image := image' } := by
  have paces := twins.perform (.declare alike)
  cases made : Image.declare declaration state.image with
  | error fault image =>
      rw [Call.perform_declare_of_error made] at paces
      cases made' : Image.declare declaration' other.image with
      | error fault' image' =>
          rw [Call.perform_declare_of_error made'] at paces
          cases paces with
          | refused same => exact .inl ⟨fault, fault', same, rfl, rfl⟩
      | ok id' image' =>
          rw [Call.perform_declare_of_ok made'] at paces
          cases paces
  | ok id image =>
      rw [Call.perform_declare_of_ok made] at paces
      cases made' : Image.declare declaration' other.image with
      | error fault' image' =>
          rw [Call.perform_declare_of_error made'] at paces
          cases paces
      | ok id' image' =>
          rw [Call.perform_declare_of_ok made'] at paces
          cases paces with
          | @answered g _ _ _ _ step resembles alike =>
              cases alike with
              | id sends =>
                  exact .inr ⟨g, id, id', image, image', sends, rfl, rfl,
                    twins.answered step resembles (Call.perform_declare_of_ok made)
                      (Call.perform_declare_of_ok made')⟩

end State

section Transcript

variable {outcome outcome' : Outcome}

/-- What a declaration with a body answers. -/
theorem Run.Paces.answerOf {run run' : Run} (paces : Run.Paces f state other g run run')
    {declared declared' : ObjectId} (sends : g.Sends declared declared') :
    (run.answerOf declared).Alike g (run'.answerOf declared') := by
  have endings := paces.ending
  unfold Run.answerOf
  generalize run.ending = ending at endings ⊢
  generalize run'.ending = ending' at endings ⊢
  cases endings with
  | none => exact .value (.id sends)
  | some same => exact .refused same

/-- Runs go on alike after what has come before them. -/
theorem Run.Paces.prepend {run run' : Run} (onward : Run.Paces g after after' h run run')
    (paces : State.Paces f state other g after after') {answer answer' : Transcript → Transcript}
    (alike : (answer run.transcript).Alike h (answer' run'.transcript)) :
    Run.Paces f state other h (run.after answer) (run'.after answer') :=
  ⟨paces.trans onward.states, alike, onward.ending⟩

/-- After a step the states are reported, and the runs go on alike with the steps that follow,
unless the fault of the step ends them. -/
theorem Script.paces_rest {rest rest' : Script} {ends : Bool} {options : StepOptions}
    (paces : State.Paces f state other g after after') (alike : outcome.Alike g outcome')
    {last last' : Fault → Transcript} {answer answer' : Transcript → Transcript}
    (lasts : ∀ {fault fault'}, fault.SameKind fault' → (last fault).Alike g (last' fault'))
    (answers : ∀ {h : Renaming} {transcript transcript'}, g.Keeps h →
      transcript.Alike h transcript' → (answer transcript).Alike h (answer' transcript'))
    (further : ∀ {state other}, State.Twins g state other → ∃ h : Renaming,
      Run.Paces g state other h (rest.run ends state) (rest'.run ends other)) :
    let run : Run := match outcome.ending? ends options with
      | some fault => ⟨last fault, some fault, after.report.2⟩
      | none => (rest.run ends after.report.2).after answer
    let run' : Run := match outcome'.ending? ends options with
      | some fault => ⟨last' fault, some fault, after'.report.2⟩
      | none => (rest'.run ends after'.report.2).after answer'
    ∃ h : Renaming, Run.Paces f state other h run run' := by
  have endings := alike.ending? ends options
  generalize outcome.ending? ends options = ending at endings ⊢
  generalize outcome'.ending? ends options = ending' at endings ⊢
  cases endings with
  | some same => exact ⟨g, paces.report, lasts same, .some same⟩
  | none =>
      obtain ⟨h, onward⟩ := further paces.report.twins
      exact ⟨h, onward.prepend paces.report (answers onward.states.step.keeps onward.transcript)⟩

end Transcript

/-- Alike scripts go on alike. By induction on the scripts, with a renaming that has been extended
since the ids in them were given. -/
theorem Script.Alike.paces {script script' : Script} (alike : script.Alike f script') (ends : Bool)
    (keeps : f.Keeps g) (twins : State.Twins g state other) :
    ∃ h : Renaming, Run.Paces g state other h (script.run ends state) (script'.run ends other) := by
  induction alike generalizing ends g state other with
  | done => exact ⟨g, twins.paces, .done, .none⟩
  | call options alike _ ih =>
      obtain ⟨h, step, outcomes⟩ := twins.execute keeps alike
      exact paces_rest (step.bindAnswer outcomes options) outcomes
        (fun _ => .answer _ _ outcomes .done)
        (fun onward rest => .answer _ _ (outcomes.mono onward) rest)
        (ih ends (keeps.trans step.step.keeps))
  | @declare declaration declaration' _ _ _ _ options alike _ _ ihBody ihRest =>
      have found := alike.traverse keeps twins.bindings
      unfold Script.run
      generalize declaration.traverse (Reference.resolve state.bindings) = resolved at found ⊢
      generalize declaration'.traverse (Reference.resolve other.bindings) = resolved' at found ⊢
      cases found with
      | refused same =>
          subst same
          obtain ⟨h, onward⟩ := ihRest ends keeps twins.paces.report.twins
          exact ⟨h, onward.prepend twins.paces.report
            (.answer _ _ (.unbound _) onward.transcript)⟩
      | answered alike =>
          rcases twins.declare alike with ⟨fault, fault', same, made, made'⟩ |
            ⟨h, id, id', image, image', sends, made, made', linked⟩
          · simp only [made, made']
            exact paces_rest twins.paces (.refused same)
              (fun same => .answer _ _ (.refused same) .done)
              (fun _ rest => .answer _ _ (.refused same) rest) (ihRest ends keeps)
          · simp only [made, made']
            have entered := linked.withBindings (linked.twins.bindings.bind "self" sends)
            have onward := keeps.trans entered.step.keeps
            obtain ⟨k, inner⟩ := ihBody true onward entered.twins
            have outcomes := inner.answerOf (inner.states.step.keeps _ _ sends)
            have inside := entered.trans inner.states
            -- after the body the handle of the class is bound as it was before
            have before := inside.step.keeps.maybe (twins.bindings "self")
            have left := inside.withBindings (inside.twins.bindings.rebind "self" before)
            exact paces_rest (left.bindAnswer outcomes options) outcomes
              (fun _ => .declared _ _ inner.transcript outcomes .done)
              (fun onward rest => .declared _ _ (inner.transcript.mono onward)
                (outcomes.mono onward) rest)
              (ihRest ends (keeps.trans inside.step.keeps))
  | guarded _ _ ihInner ihRest =>
      have held := twins.paces.hold
      obtain ⟨h, inner⟩ := ihInner false keeps held.twins
      have released := (held.trans inner.states).unhold.report
      obtain ⟨k, onward⟩ := ihRest ends (keeps.trans released.step.keeps) released.twins
      exact ⟨k, onward.prepend released
        (.guarded _ _ (inner.transcript.mono onward.states.step.keeps) onward.transcript)⟩
  | unknown _ ih =>
      obtain ⟨h, onward⟩ := ih ends keeps twins.paces.report.twins
      exact ⟨h, onward.prepend twins.paces.report (.answer _ _ .unknownOperation onward.transcript)⟩

end Session

end Metamodel
