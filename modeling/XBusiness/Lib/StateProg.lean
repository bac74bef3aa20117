import XBusiness.Lib.Prog

/-! # Programs that work on an object

`StateT σ (Prog ..)` is a program with an object of type `σ` in its hands: reading and
writing the object is not a call.  `StateProg.Safe` is `Prog.Safe` for such a program, its
postcondition also speaking of the object at the end.  `StateProg.Frames` is `Prog.Makes`
with what the program leaves of its object, and `StateProg.Upholds` is `Prog.Makes` for a program
whose calls depend on a property of its object that it keeps.  The rules follow the shape of the
`do` blocks: one for each way a block can begin.
-/

namespace Interaction

namespace StateProg

variable {Request : Type} {Answer : Request → Type} {Fault World σ α β : Type}
variable {contract : Contract World Request Answer} {fault : Fault → Prop}

/-- The program keeps the contract from the world and the object on. -/
def Safe (contract : Contract World Request Answer) (fault : Fault → Prop)
    (post : World → α → σ → Prop) (program : StateT σ (Prog Request Answer Fault) α)
    (world : World) (object : σ) : Prop :=
  (program.run object).Safe contract fault (fun later result => post later result.1 result.2) world

theorem Safe.stable {post : World → α → σ → Prop} {program : StateT σ (Prog Request Answer Fault) α}
    {world later : World} {object : σ} (safe : Safe contract fault post program world object)
    (moved : contract.rely world later) : Safe contract fault post program later object :=
  Prog.Safe.stable safe moved

theorem Safe.mono {post weaker : World → α → σ → Prop}
    {program : StateT σ (Prog Request Answer Fault) α} {world : World} {object : σ}
    (safe : Safe contract fault post program world object)
    (weaken : ∀ world value object, post world value object → weaker world value object) :
    Safe contract fault weaker program world object :=
  Prog.Safe.mono safe fun world result => weaken world result.1 result.2

theorem Safe.and {first second : World → α → σ → Prop} {program : StateT σ (Prog Request Answer Fault) α}
    {world : World} {object : σ} (safeFirst : Safe contract fault first program world object)
    (safeSecond : Safe contract fault second program world object) :
    Safe contract fault (fun world value object => first world value object ∧ second world value object)
      program world object :=
  Prog.Safe.and safeFirst safeSecond

theorem Safe.pure {post : World → α → σ → Prop} {value : α} {world : World} {object : σ}
    (holds : ∀ later, contract.rely world later → post later value object) :
    Safe contract fault post (Pure.pure value) world object :=
  holds

theorem Safe.bind {post : World → β → σ → Prop} {program : StateT σ (Prog Request Answer Fault) α}
    {continuation : α → StateT σ (Prog Request Answer Fault) β} {world : World} {object : σ}
    (safe : Safe contract fault
      (fun world value object => Safe contract fault post (continuation value) world object)
      program world object) :
    Safe contract fault post (program >>= continuation) world object :=
  Prog.Safe.bind safe

theorem Safe.get {post : World → β → σ → Prop}
    {continuation : σ → StateT σ (Prog Request Answer Fault) β} {world : World} {object : σ}
    (safe : Safe contract fault post (continuation object) world object) :
    Safe contract fault post (MonadState.get >>= continuation) world object :=
  safe

theorem Safe.modify {post : World → β → σ → Prop} {change : σ → σ}
    {continuation : PUnit → StateT σ (Prog Request Answer Fault) β} {world : World} {object : σ}
    (safe : Safe contract fault post (continuation ⟨⟩) world (change object)) :
    Safe contract fault post ((modify change : StateT σ (Prog Request Answer Fault) PUnit) >>= continuation)
      world object :=
  safe

theorem Safe.lift {post : World → β → σ → Prop} {program : Prog Request Answer Fault α}
    {continuation : α → StateT σ (Prog Request Answer Fault) β} {world : World} {object : σ}
    (safe : program.Safe contract fault
      (fun world value => Safe contract fault post (continuation value) world object) world) :
    Safe contract fault post (StateT.lift program >>= continuation) world object := by
  refine Prog.Safe.bind ?_
  exact Prog.Safe.bind (safe.mono fun world value kept later relied => Prog.Safe.stable kept relied)

/-- One call at the head of a block. -/
theorem Safe.call {post : World → β → σ → Prop} {request : Request}
    {continuation : Answer request → StateT σ (Prog Request Answer Fault) β} {world : World}
    {object : σ}
    (step : ∀ later, contract.rely world later → contract.allowed later request ∧
      ∀ answer after, contract.effect later request answer after →
        Safe contract fault post (continuation answer) after object) :
    Safe contract fault post (StateT.lift (Prog.perform request) >>= continuation) world object :=
  step

/-! ## The calls of a program -/

/-- Every call that the program can make is of the kind, and it leaves what is observed of its
    object as it was. -/
def Frames {τ : Type} (kind : Request → Prop) (observe : σ → τ)
    (program : StateT σ (Prog Request Answer Fault) α) : Prop :=
  ∀ object, (program.run object).Makes kind fun result => observe result.2 = observe object

variable {τ : Type} {kind : Request → Prop} {observe : σ → τ}

theorem Frames.pure {value : α} :
    Frames kind observe (Pure.pure value : StateT σ (Prog Request Answer Fault) α) :=
  fun _ => rfl

theorem Frames.raise {raised : Fault} :
    Frames kind observe (StateT.lift (Prog.raise raised) : StateT σ (Prog Request Answer Fault) α) :=
  fun _ => trivial

theorem Frames.bind {program : StateT σ (Prog Request Answer Fault) α}
    {continuation : α → StateT σ (Prog Request Answer Fault) β} (frames : Frames kind observe program)
    (framesRest : ∀ value, Frames kind observe (continuation value)) :
    Frames kind observe (program >>= continuation) := by
  intro object
  apply Prog.Makes.bind (frames object)
  intro result same
  rw [← same]
  exact framesRest result.1 result.2

theorem Frames.get {continuation : σ → StateT σ (Prog Request Answer Fault) β}
    (frames : ∀ object, Frames kind observe (continuation object)) :
    Frames kind observe (MonadState.get >>= continuation) := fun object => frames object object

theorem Frames.modify {change : σ → σ} (same : ∀ object, observe (change object) = observe object) :
    Frames kind observe (modify change : StateT σ (Prog Request Answer Fault) PUnit) := same

theorem Frames.lift {program : Prog Request Answer Fault α}
    (makes : program.Makes kind fun _ => True) :
    Frames kind observe (StateT.lift program : StateT σ (Prog Request Answer Fault) α) :=
  fun _ => Prog.Makes.bind makes fun _ _ => rfl

theorem Frames.call {request : Request} (holds : kind request) :
    Frames kind observe
      (StateT.lift (Prog.perform request) : StateT σ (Prog Request Answer Fault) _) :=
  fun _ => ⟨holds, fun _ => rfl⟩

theorem Frames.mono {wider : Request → Prop} {program : StateT σ (Prog Request Answer Fault) α}
    (frames : Frames kind observe program) (widen : ∀ request, kind request → wider request) :
    Frames wider observe program :=
  fun object => (frames object).mono widen

/-- A part of what is observed. -/
theorem Frames.map {υ : Type} {program : StateT σ (Prog Request Answer Fault) α}
    (frames : Frames kind observe program) (project : τ → υ) :
    Frames kind (fun object => project (observe object)) program :=
  fun object => (frames object).weaken fun _ same => congrArg project same

/-- A property that the others and the calls of a kind keep holds when the program returns. -/
theorem safe_of_makes (property : World → Prop) {post : α × σ → Prop}
    {program : StateT σ (Prog Request Answer Fault) α} {world : World} {object : σ}
    (makes : (program.run object).Makes kind post)
    (relied : ∀ world later, contract.rely world later → property world → property later)
    (kept : ∀ world request, kind request → property world → contract.allowed world request ∧
      ∀ answer after, contract.effect world request answer after → property after)
    (raised : ∀ raised, fault raised) (holds : property world) :
    Safe contract fault (fun later value final => property later ∧ post (value, final)) program world object :=
  makes.safe property relied kept raised holds

theorem Frames.safe (property : World → Prop) {program : StateT σ (Prog Request Answer Fault) α}
    {world : World} {object : σ} (frames : Frames kind observe program)
    (relied : ∀ world later, contract.rely world later → property world → property later)
    (kept : ∀ world request, kind request → property world → contract.allowed world request ∧
      ∀ answer after, contract.effect world request answer after → property after)
    (raised : ∀ raised, fault raised) (holds : property world) :
    Safe contract fault (fun later _ final => property later ∧ observe final = observe object)
      program world object :=
  safe_of_makes property (frames object) relied kept raised holds

/-! ## The calls of a program that keeps its object in order -/

/-- From an object with the property on, every call that the program can make is of the kind, the object
    keeps the property, and what is returned has its own. -/
def Upholds (kind : Request → Prop) (holds : σ → Prop) (post : α → Prop)
    (program : StateT σ (Prog Request Answer Fault) α) : Prop :=
  ∀ object, holds object → (program.run object).Makes kind fun result => holds result.2 ∧ post result.1

section Upholds

variable {holds : σ → Prop} {post : α → Prop}

theorem Upholds.pure {value : α} (returned : post value) :
    Upholds kind holds post (Pure.pure value : StateT σ (Prog Request Answer Fault) α) :=
  fun _ held => ⟨held, returned⟩

theorem Upholds.bind {last : β → Prop} {program : StateT σ (Prog Request Answer Fault) α}
    {continuation : α → StateT σ (Prog Request Answer Fault) β} (upholds : Upholds kind holds post program)
    (upholdsRest : ∀ value, post value → Upholds kind holds last (continuation value)) :
    Upholds kind holds last (program >>= continuation) := by
  intro object held
  apply Prog.Makes.bind (upholds object held)
  rintro ⟨value, after⟩ ⟨heldAfter, returned⟩
  exact upholdsRest value returned after heldAfter

/-- The object that is read has the property. -/
theorem Upholds.get {continuation : σ → StateT σ (Prog Request Answer Fault) α}
    (upholds : ∀ object, holds object → Upholds kind holds post (continuation object)) :
    Upholds kind holds post (MonadState.get >>= continuation) :=
  fun object held => upholds object held object held

theorem Upholds.modify {change : σ → σ} {continuation : PUnit → StateT σ (Prog Request Answer Fault) α}
    (kept : ∀ object, holds object → holds (change object))
    (upholds : Upholds kind holds post (continuation ⟨⟩)) :
    Upholds kind holds post
      ((modify change : StateT σ (Prog Request Answer Fault) PUnit) >>= continuation) :=
  fun object held => upholds (change object) (kept object held)

theorem Upholds.lift {program : Prog Request Answer Fault α} (makes : program.Makes kind post) :
    Upholds kind holds post (StateT.lift program : StateT σ (Prog Request Answer Fault) α) :=
  fun _ held => makes.bind fun _ returned => ⟨held, returned⟩

theorem Upholds.call {request : Request} (ofKind : kind request) :
    Upholds kind holds (fun _ => True)
      (StateT.lift (Prog.perform request) : StateT σ (Prog Request Answer Fault) _) :=
  .lift ⟨ofKind, fun _ => trivial⟩

end Upholds

end StateProg

end Interaction
