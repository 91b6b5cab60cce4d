import Mathlib.Data.List.Induction
import Mathlib.Order.Nat
import PreparedFilter.Fault

/-!
# How faults grow

A fault starts from some base, and on its way to the caller levels are put in front and definitions
are named (`Fault.History`). Whatever the history, the following holds of the fault
(`Fault.History.fault_grows`).

* All its causes have the kind of the base (`Cause.follow` goes from one to the next), and there are
  as many as levels were put in front, and one more if a neighbour failed.
* The messages of its levels are those that were given: that of the base, and before it those of the
  levels that were put in front, the last one first.
* Only the innermost level owns a trace, so that there is one to be shown at every level.
* The outermost level names the definition that was named last since it was put in front, and what
  lies below is left alone.

The invariant that each step keeps is `Fault.Grown`. Messages are added by each step to those that
are there (`Fault.messages_apply`), and the definitions need no invariant, as each step decides
alone which one is named.
-/

namespace PreparedFilter

/-! ## Causes -/

/-- What a fault is caused by: another fault, with all that lies below it, or an origin. -/
inductive Cause where
  | fault (fault : Fault)
  | origin (origin : Origin)
  deriving DecidableEq

/-- The nearest cause of a fault. -/
def Fault.reason? (f : Fault) : Option Cause :=
  match f.causes with
  | [] => f.origin.map .origin
  | level :: causes => some (.fault ⟨level, causes, f.origin⟩)

namespace Fault

theorem reason?_eq_none_iff {f : Fault} : f.reason? = none ↔ f.causes = [] ∧ f.origin = none := by
  obtain ⟨outer, causes, origin⟩ := f
  cases causes <;> simp [reason?]

/-- The nearest cause of a fault, if it is a fault, has all levels but the outermost one. -/
theorem reason?_eq_fault_iff {f g : Fault} :
    f.reason? = some (.fault g) ↔ f.causes = g.levels ∧ f.origin = g.origin := by
  obtain ⟨outer, causes, origin⟩ := f
  obtain ⟨outer', causes', origin'⟩ := g
  cases causes <;> simp [reason?, levels, and_assoc]

theorem reason?_eq_origin_iff {f : Fault} {o : Origin} :
    f.reason? = some (.origin o) ↔ f.causes = [] ∧ f.origin = some o := by
  obtain ⟨outer, causes, origin⟩ := f
  cases causes <;> simp [reason?]

end Fault

namespace Cause

/-- The kind of a cause. -/
def kind : Cause → FaultKind
  | fault f => f.kind
  | origin o => o.kind

/-- The text of a cause. -/
def text : Cause → String
  | fault f => f.text
  | origin o => o.text

/-- The nearest cause of a cause. An origin has none. -/
def reason? : Cause → Option Cause
  | fault f => f.reason?
  | origin _ => none

/-- What a number of steps from causes to their nearest causes leads to. -/
def follow (c : Cause) : Nat → Option Cause
  | 0 => some c
  | n + 1 => c.reason?.bind fun reason => reason.follow n

/-- The number of causes below. -/
def depth : Cause → Nat
  | fault f => f.causes.length + f.origin.toList.length
  | origin _ => 0

theorem depth_of_reason?_eq_none {c : Cause} (h : c.reason? = none) : c.depth = 0 := by
  cases c with
  | fault f =>
    obtain ⟨lowest, alone⟩ := Fault.reason?_eq_none_iff.mp h
    rw [depth, lowest, alone]
    rfl
  | origin o => rfl

/-- One step down leaves one cause less below. -/
theorem depth_of_reason?_eq_some {c d : Cause} (h : c.reason? = some d) :
    c.depth = d.depth + 1 := by
  cases c with
  | fault f =>
    cases d with
    | fault g =>
      obtain ⟨below, same⟩ := Fault.reason?_eq_fault_iff.mp h
      rw [depth, depth, below, same, Fault.levels, List.length_cons]
      omega
    | origin o =>
      obtain ⟨lowest, neighbour⟩ := Fault.reason?_eq_origin_iff.mp h
      rw [depth, lowest, neighbour]
      rfl
  | origin o => cases h

/-- As many steps can be taken as there are causes below. -/
theorem isSome_follow_iff {c : Cause} {n : Nat} : (c.follow n).isSome = true ↔ n ≤ c.depth := by
  induction n generalizing c with
  | zero => simp [follow]
  | succ n ih =>
    rw [follow]
    cases h : c.reason? with
    | none =>
      rw [depth_of_reason?_eq_none h]
      simp
    | some d =>
      rw [depth_of_reason?_eq_some h, Option.bind_some, ih]
      omega

/-- What is handed down to nearest causes holds of all that is below. -/
theorem follow_induction {P : Cause → Prop} (down : ∀ c d, P c → c.reason? = some d → P d)
    {c d : Cause} (h : P c) {n : Nat} (reached : c.follow n = some d) : P d := by
  induction n generalizing c with
  | zero =>
    cases reached
    exact h
  | succ n ih =>
    obtain ⟨reason, next, later⟩ := Option.bind_eq_some_iff.mp reached
    exact ih (down c reason h next) later

end Cause

namespace Fault

/-- The listed causes of a fault are those that are met by going from one to the next. -/
theorem reasons_getElem? (f : Fault) (n : Nat) :
    f.reasons[n]? = ((Cause.fault f).follow (n + 1)).map fun c => (c.kind, c.text) := by
  obtain ⟨outer, causes, origin⟩ := f
  rw [reasons]
  induction causes generalizing outer n with
  | nil => cases origin <;> cases n <;> rfl
  | cons level causes ih =>
    cases n with
    | zero => rfl
    | succ n => exact ih n level

theorem length_reasons (f : Fault) : f.reasons.length = (Cause.fault f).depth := by
  refine eq_of_forall_ge_iff fun n => ?_
  rw [← List.getElem?_eq_none_iff, reasons_getElem?, Option.map_eq_none_iff,
    ← Option.not_isSome_iff_eq_none, Cause.isSome_follow_iff, Nat.not_le, Nat.lt_succ_iff]

theorem definitionText_eq (definition : Option DefinitionId) :
    definitionText definition =
      definition.elim "" fun id => " (in filter defined at " ++ id.text ++ ")" := by
  cases definition with
  | none => exact rfl
  | some id => exact rfl

/-- The text of a fault is that of its outermost level, around the text of its nearest cause. -/
theorem text_eq (f : Fault) :
    f.text = f.kind.text ++ ": " ++ f.message
      ++ f.reason?.elim "" (fun cause => ", caused by: " ++ cause.text)
      ++ f.definition.elim "" fun id => " (in filter defined at " ++ id.text ++ ")" := by
  obtain ⟨outer, causes, origin⟩ := f
  rw [← definitionText_eq, text]
  match causes, origin with
  | [], none =>
    rw [levelText]
    rfl
  | [], some origin =>
    rw [levelText]
    rfl
  | level :: causes, origin =>
    rw [levelText]
    exact congrArg (· ++ definitionText outer.definition) String.append_assoc

/-- Going down takes the levels off one by one. -/
theorem levels_of_follow {f g : Fault} {n : Nat}
    (reached : (Cause.fault f).follow n = some (.fault g)) : g.levels = f.levels.drop n := by
  induction n generalizing f with
  | zero =>
    cases reached
    rfl
  | succ n ih =>
    obtain ⟨reason, next, later⟩ := Option.bind_eq_some_iff.mp reached
    cases reason with
    | fault f' => rw [ih later, ← (reason?_eq_fault_iff.mp next).1, levels, List.drop_succ_cons]
    | origin o => cases n <;> cases later

/-! ## Histories -/

/-- What a fault starts from: nothing, or the failure of a neighbour, with a message or without. -/
inductive Base where
  | new (kind : FaultKind) (message : String)
  | ofOrigin (message : String) (origin : Origin)
  | lift (origin : Origin)

namespace Base

/-- The fault with which a base starts. -/
def fault : Base → Fault
  | new kind message => .new kind message
  | ofOrigin message origin => .ofOrigin message origin
  | lift origin => .lift origin

/-- The kind of a base. -/
def kind : Base → FaultKind
  | new kind _ => kind
  | ofOrigin _ origin => origin.kind
  | lift origin => origin.kind

/-- The message with which a base starts. -/
def message : Base → String
  | new _ message => message
  | ofOrigin message _ => message
  | lift origin => defaultMessage origin.kind

/-- The failure of a neighbour that a base holds. -/
def origin? : Base → Option Origin
  | new _ _ => none
  | ofOrigin _ origin => some origin
  | lift origin => some origin

end Base

/-- What can be done to a fault. -/
inductive Step where
  | chain (message : String)
  | withDefinition (id : DefinitionId)
  | setDefinition (id : DefinitionId)

namespace Step

/-- The fault after a step. -/
def apply (f : Fault) : Step → Fault
  | chain message => f.chain message
  | withDefinition id => f.withDefinition id
  | setDefinition id => (f.setDefinition id).2

/-- Whether a step puts a level in front. -/
def isChain : Step → Bool
  | chain _ => true
  | _ => false

/-- The message of the level that a step puts in front. -/
def message? : Step → Option String
  | chain message => some message
  | _ => none

/-- The definition that a step names. -/
def definition? : Step → Option DefinitionId
  | chain _ => none
  | withDefinition id => some id
  | setDefinition id => some id

end Step

/-- How a fault came about. -/
structure History where
  base : Base
  steps : List Step

namespace History

/-- The fault at the end of a history. -/
def fault (h : History) : Fault := h.steps.foldl Step.apply h.base.fault

/-- A history with further steps. -/
def extend (h : History) (later : List Step) : History := ⟨h.base, h.steps ++ later⟩

/-- The number of levels that were put in front. -/
def links (h : History) : Nat := h.steps.countP Step.isChain

/-- The messages that were given, the last one first. -/
def messages (h : History) : List String :=
  (h.steps.filterMap Step.message?).reverse ++ [h.base.message]

/-- The definition that was named last, if any was since a level was last put in front. -/
def definition? (h : History) : Option DefinitionId :=
  (h.steps.reverse.takeWhile fun step => !step.isChain).findSome? Step.definition?

theorem fault_extend (h : History) (later : List Step) :
    (h.extend later).fault = later.foldl Step.apply h.fault := by
  rw [extend, fault, List.foldl_append, fault]

end History

/-! ## Levels -/

/-- A fault that grew from a base by a number of levels: all are of one kind, and the innermost one
owns a trace. -/
structure Grown (base : Base) (links : Nat) (f : Fault) : Prop where
  kinds : ∀ level ∈ f.levels, level.kind = base.kind
  traces : f.levels.map Level.ownsTrace = List.replicate links false ++ [true]
  origin : f.origin = base.origin?

theorem Grown.base (base : Base) : Grown base 0 base.fault := by
  cases base with
  | new kind message => exact ⟨List.forall_mem_singleton.mpr rfl, rfl, rfl⟩
  | ofOrigin message origin => exact ⟨List.forall_mem_singleton.mpr rfl, rfl, rfl⟩
  | lift origin => exact ⟨List.forall_mem_singleton.mpr rfl, rfl, rfl⟩

namespace Grown

variable {base : Base} {links : Nat} {f : Fault}

theorem hasTrace (h : Grown base links f) : f.hasTrace = true := by
  have innermost : true ∈ f.levels.map Level.ownsTrace := by
    rw [h.traces]
    exact List.mem_append_right _ (List.mem_singleton_self true)
  obtain ⟨level, mem, owns⟩ := List.mem_map.mp innermost
  exact List.any_eq_true.mpr ⟨level, mem, owns⟩

/-- Putting a level in front adds a link, and the new level takes no trace. -/
theorem chain (h : Grown base links f) (message : String) :
    Grown base (links + 1) (f.chain message) where
  kinds := List.forall_mem_cons.mpr ⟨h.kinds f.outer List.mem_cons_self, h.kinds⟩
  traces := by
    -- there is a trace below, so that the new level takes none
    show (!f.hasTrace) :: f.levels.map Level.ownsTrace = _
    rw [h.hasTrace, h.traces, List.replicate_succ, List.cons_append]
    rfl
  origin := h.origin

theorem withDefinition (h : Grown base links f) (id : DefinitionId) :
    Grown base links (f.withDefinition id) where
  kinds := List.forall_mem_cons.mpr (List.forall_mem_cons.mp h.kinds)
  traces := h.traces
  origin := h.origin

theorem apply (h : Grown base links f) (step : Step) :
    Grown base (links + [step].countP Step.isChain) (step.apply f) := by
  cases step with
  | chain message => exact h.chain message
  | withDefinition id => exact h.withDefinition id
  | setDefinition id => exact h.withDefinition id

/-- After a run there are as many more links as levels were put in front in it. -/
theorem run (h : Grown base links f) (steps : List Step) :
    Grown base (links + steps.countP Step.isChain) (steps.foldl Step.apply f) := by
  induction steps generalizing links f with
  | nil => exact h
  | cons step steps ih =>
    have further := ih (h.apply step)
    rw [Nat.add_assoc, ← List.countP_append, List.singleton_append] at further
    exact further

theorem length_causes (h : Grown base links f) : f.causes.length = links := by
  have lengths := congrArg List.length h.traces
  rw [List.length_map, List.length_append, List.length_replicate, List.length_singleton] at lengths
  exact Nat.succ.inj lengths

/-- The nearest cause of a fault that grew from a base grew from it, too, by as many levels as it
has causes. -/
theorem reason (h : Grown base links f) {g : Fault} (next : f.reason? = some (.fault g)) :
    Grown base g.causes.length g := by
  obtain ⟨below, same⟩ := reason?_eq_fault_iff.mp next
  have one : links = g.causes.length + 1 := by
    rw [← h.length_causes, below, levels, List.length_cons]
  have traces := h.traces
  rw [levels, below, one, List.replicate_succ] at traces
  exact
    { kinds := fun level mem => h.kinds level (List.mem_cons_of_mem _ (below ▸ mem))
      traces := (List.cons.inj traces).2
      origin := same.symm.trans h.origin }

end Grown

/-- What lies in a fault that grew from a base: a fault that did, or the origin of the base. -/
def LiesOver (base : Base) : Cause → Prop
  | .fault f => ∃ links, Grown base links f
  | .origin o => base.origin? = some o

namespace LiesOver

variable {base : Base}

/-- Going down does not leave what lies over a base. -/
theorem reason? {c d : Cause} (h : LiesOver base c) (next : c.reason? = some d) :
    LiesOver base d := by
  cases c with
  | origin o => cases next
  | fault f =>
    obtain ⟨links, grown⟩ := h
    cases d with
    | fault g => exact ⟨g.causes.length, grown.reason next⟩
    | origin o => exact grown.origin.symm.trans (reason?_eq_origin_iff.mp next).2

/-- Whatever lies over a base is of its kind, the origin included. -/
theorem kind {c : Cause} (h : LiesOver base c) : c.kind = base.kind := by
  cases c with
  | fault f =>
    obtain ⟨links, grown⟩ := h
    exact grown.kinds f.outer List.mem_cons_self
  | origin o =>
    cases base with
    | new kind message => cases h
    | ofOrigin message origin =>
      cases h
      rfl
    | lift origin =>
      cases h
      rfl

theorem hasTrace {f : Fault} (h : LiesOver base (.fault f)) : f.hasTrace = true := by
  obtain ⟨links, grown⟩ := h
  exact grown.hasTrace

end LiesOver

namespace History

theorem grown (h : History) : Grown h.base h.links h.fault := by
  have grown := (Grown.base h.base).run h.steps
  rw [Nat.zero_add] at grown
  exact grown

/-- All that is met on the way down from a fault lies over its base. -/
theorem liesOver_of_follow (h : History) {n : Nat} {c : Cause}
    (reached : (Cause.fault h.fault).follow n = some c) : LiesOver h.base c := by
  have outermost : LiesOver h.base (.fault h.fault) := ⟨h.links, h.grown⟩
  exact Cause.follow_induction (fun _ _ => LiesOver.reason?) outermost reached

theorem depth_fault (h : History) :
    (Cause.fault h.fault).depth = h.links + h.base.origin?.toList.length := by
  rw [Cause.depth, h.grown.length_causes, h.grown.origin]

end History

/-! ## Messages -/

/-- The messages of the levels, outermost first. -/
def messages (f : Fault) : List String := f.levels.map Level.message

/-- A step gives a message to a level that it puts in front, and changes no other. -/
theorem messages_apply (f : Fault) (step : Step) :
    (step.apply f).messages = step.message?.toList ++ f.messages := by
  cases step <;> rfl

/-- After a run, the messages that were given in it come before the older ones, the last one
first. -/
theorem messages_run (f : Fault) (steps : List Step) :
    (steps.foldl Step.apply f).messages =
      (steps.filterMap Step.message?).reverse ++ f.messages := by
  induction steps generalizing f with
  | nil => rfl
  | cons step steps ih =>
    rw [List.foldl_cons, ih, messages_apply]
    cases h : step.message? with
    | none => rw [List.filterMap_cons_none h, Option.toList_none, List.nil_append]
    | some message =>
      rw [List.filterMap_cons_some h, List.reverse_cons, Option.toList_some, List.append_assoc]

theorem Base.messages_fault (base : Base) : base.fault.messages = [base.message] := by
  cases base <;> rfl

namespace History

/-- The messages of a fault are those that were given to it. -/
theorem messages_fault (h : History) : h.fault.messages = h.messages := by
  rw [fault, messages_run, h.base.messages_fault, messages]

/-! ## Definitions -/

/-- The outermost level names what was named last since it was put in front. -/
theorem definition_fault (h : History) : h.fault.definition = h.definition? := by
  obtain ⟨base, steps⟩ := h
  cases steps using List.reverseRecOn with
  | nil => cases base <;> rfl
  | append_singleton steps step =>
    -- the last step decides alone: a new level names nothing, and a definition is named at once
    have last := fault_extend ⟨base, steps⟩ [step]
    rw [extend] at last
    rw [last, definition?, List.reverse_append]
    cases step <;> rfl

end History

/-! ## What lies below -/

/-- A step leaves the levels below the outermost one alone. -/
theorem causes_apply (f : Fault) (step : Step) : f.causes <:+ (step.apply f).causes := by
  cases step with
  | chain message => exact List.suffix_cons f.outer f.causes
  | withDefinition id => exact List.suffix_rfl
  | setDefinition id => exact List.suffix_rfl

/-- What lies below the outermost level stays at the end of the causes in any run. -/
theorem causes_run (f : Fault) (steps : List Step) :
    f.causes <:+ (steps.foldl Step.apply f).causes := by
  induction steps generalizing f with
  | nil => exact List.suffix_rfl
  | cons step steps ih => exact (causes_apply f step).trans (ih (step.apply f))

namespace History

/-- **What holds of a fault, however it grew.** All causes have the kind of the base. There are as
many as levels were put in front, and one more over an origin. The levels have the messages that
were given to them, the base the innermost one. Every level has a trace to show, and only the
innermost one owns it. The outermost level names what was named last since it was put in front, and
this is what naming another definition gives back. Later steps leave the levels below alone. The
text of each level holds its kind, its message, the text of its cause and the definition that it
names. A value is not changed by putting a level in front. -/
theorem fault_grows (h : History) :
    (∀ n c, (Cause.fault h.fault).follow n = some c → c.kind = h.base.kind) ∧
    (∀ n, ((Cause.fault h.fault).follow n).isSome = true ↔
      n ≤ h.links + h.base.origin?.toList.length) ∧
    h.fault.reasons.length = h.links + h.base.origin?.toList.length ∧
    h.fault.messages = h.messages ∧
    h.fault.levels.map Level.ownsTrace = List.replicate h.links false ++ [true] ∧
    (∀ n f, (Cause.fault h.fault).follow n = some (.fault f) →
      f.levels = h.fault.levels.drop n ∧ f.hasTrace = true ∧
      f.text = f.kind.text ++ ": " ++ f.message
        ++ f.reason?.elim "" (fun cause => ", caused by: " ++ cause.text)
        ++ f.definition.elim "" fun id => " (in filter defined at " ++ id.text ++ ")") ∧
    h.fault.definition = h.definition? ∧
    (∀ id, h.fault.setDefinition id = (h.definition?, (h.extend [.setDefinition id]).fault)) ∧
    (∀ later, h.fault.causes <:+ (h.extend later).fault.causes) ∧
    (∀ message later, h.fault.levels <:+ (h.extend (.chain message :: later)).fault.causes) ∧
    ∀ (α : Type) (message : String) (a : α),
      chainResult message (.ok a) = .ok a ∧
      chainResult message (.error h.fault : Except Fault α) =
        .error (h.extend [.chain message]).fault := by
  refine ⟨?_, ?_, ?_, h.messages_fault, h.grown.traces, ?_, h.definition_fault, ?_, ?_, ?_, ?_⟩
  · intro n c reached
    exact (h.liesOver_of_follow reached).kind
  · intro n
    rw [Cause.isSome_follow_iff, h.depth_fault]
  · rw [length_reasons, h.depth_fault]
  · intro n f reached
    exact ⟨levels_of_follow reached, (h.liesOver_of_follow reached).hasTrace, f.text_eq⟩
  · intro id
    rw [fault_extend, ← h.definition_fault]
    rfl
  · intro later
    rw [fault_extend]
    exact causes_run h.fault later
  · intro message later
    rw [fault_extend]
    exact causes_run (h.fault.chain message) later
  · intro α message a
    rw [fault_extend]
    exact ⟨rfl, rfl⟩

/-- A missing key that is reported by way of two levels: what is met at each step down, and what
naming a definition gives back. -/
theorem fault_grows_missing :
    let noted := DefinitionId.named 0 "noted"
    let recent := DefinitionId.named 1 "recent"
    let h : History := ⟨.lift .notPresent, [.withDefinition noted, .chain "no such note",
      .setDefinition noted, .withDefinition recent, .chain "nothing found", .setDefinition recent]⟩
    let level : Level := ⟨.missingField, "missing value for key in Document", some noted, true⟩
    let inner : Fault := ⟨level, [], some .notPresent⟩
    (Cause.fault h.fault).follow 2 = some (.fault inner) ∧
      inner.kind = .missingField ∧ inner.hasTrace = true ∧
      inner.text = "document field not found: missing value for key in Document, "
        ++ "caused by: field is not present (in filter defined at noted)" ∧
      (Cause.fault h.fault).follow 3 = some (.origin .notPresent) ∧
      Origin.notPresent.kind = .missingField ∧
      (Cause.fault h.fault).follow 4 = none ∧
      h.fault.messages =
        ["nothing found", "no such note", "missing value for key in Document"] ∧
      (h.fault.setDefinition noted).1 = some recent := by
  intro noted recent h level inner
  obtain ⟨kinds, links, -, messages, -, faults, -, renamed, -⟩ := fault_grows h
  have reached : (Cause.fault h.fault).follow 2 = some (.fault inner) := by decide
  have last : (Cause.fault h.fault).follow 3 = some (.origin .notPresent) := by decide
  have past : (Cause.fault h.fault).follow 4 = none := by
    have beyond := (links 4).not.mpr (by decide)
    exact Option.not_isSome_iff_eq_none.mp beyond
  obtain ⟨-, traced, text⟩ := faults 2 inner reached
  refine ⟨reached, ?_, traced, ?_, last, ?_, past, messages, ?_⟩
  · exact kinds 2 _ reached
  · rw [text]
    rfl
  · exact kinds 3 _ last
  · rw [renamed noted]
    rfl

end History

end Fault

end PreparedFilter
