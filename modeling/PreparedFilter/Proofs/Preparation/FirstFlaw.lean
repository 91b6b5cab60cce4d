import PreparedFilter.Gallery.Filters
import PreparedFilter.Proofs.Outcome

/-!
# The first flaw of a predicate

Preparation ends at the first defect that it meets. What it meets is said here without the pass:
`Predicate.visits` lists the parts of a predicate, each before its own parts and from left to right,
with the schema in scope and the polarity, and `Visit.flaws` lists what is wrong with a part by
itself, the more urgent flaw first.

A predicate is accepted exactly if no part of it has a flaw, and otherwise the first flaw is
reported, by its kind and with a message that names what it is about (`Plan.prepare_flaws`).
-/

namespace PreparedFilter

/-! ## Parts of a predicate -/

/-- A part of a predicate, with the schema in scope and whether an odd number of negations stands
over it. -/
structure Visit where
  scope : Schema
  negated : Bool
  part : Predicate

namespace Predicate

mutual

/-- The parts of a predicate, each before its own parts. The criteria of an element test are over
the fields of the elements, and are not negated. -/
def visits (scope : Schema) (negated : Bool) : Predicate → List Visit
  | .test field op position => [⟨scope, negated, .test field op position⟩]
  | .element field fields criteria =>
    ⟨scope, negated, .element field fields criteria⟩ :: criteria.visits ⟨field, fields⟩ false
  | .group connective members =>
    ⟨scope, negated, .group connective members⟩ :: allVisits scope negated members
  | .not inner => ⟨scope, negated, .not inner⟩ :: inner.visits scope (!negated)

/-- The parts of a list of predicates. -/
def allVisits (scope : Schema) (negated : Bool) : List Predicate → List Visit
  | [] => []
  | p :: ps => p.visits scope negated ++ allVisits scope negated ps

end

end Predicate

/-! ## Flaws -/

/-- Something wrong with a part: the kind by which it is to be reported, the words that the message
is to name, and the defect. -/
structure Flaw where
  kind : FaultKind
  names : List String
  defect : Defect
  deriving DecidableEq

namespace Flaw

/-- A test of a field that the schema in scope does not have. The message names the field. -/
def unknownField (scope field : String) : Flaw :=
  ⟨.malformedPredicate, [field], .unknownField scope field⟩

/-- An operator on a field whose types it does not suit. The message names both. -/
def unsuitedOperator (op : Operator) (scope field : String) (types : TypeSet) : Flaw :=
  ⟨.malformedPredicate, [op.key, field], .unsuitedOperator op scope field types⟩

/-- A test of an array as a whole under a negation. The message names the operator and the field. -/
def negatedOperator (op : Operator) (field : String) : Flaw :=
  ⟨.unsupportedExpression, [op.key, field], .negatedOperator op field⟩

/-- An element test with a value in place of criteria. The message names the operator and the
field. -/
def missingCriteria (op : Operator) (scope field : String) : Flaw :=
  ⟨.malformedPredicate, [op.key, field], .missingCriteria op scope field⟩

/-- A group without members. The message names the connective and the schema. -/
def emptyGroup (connective : Connective) (scope : String) : Flaw :=
  ⟨.malformedPredicate, [connective.text, scope], .emptyGroup connective scope⟩

/-- A flaw under a condition. -/
def when (condition : Bool) (flaw : Flaw) : List Flaw := if condition then [flaw] else []

end Flaw

/-- What is wrong with the use of an operator on a field. The first descriptor of a name counts. -/
def Schema.flaws (scope : Schema) (field : String) (op : Operator) : List Flaw :=
  match scope.descriptor? field with
  | none => [.unknownField scope.name field]
  | some descriptor =>
    Flaw.when (!descriptor.supports op) (.unsuitedOperator op scope.name field descriptor.types)

/-- Whether an operator tests an array as a whole. -/
def Operator.isArrayTest : Operator → Bool
  | all | elemMatch | size => true
  | _ => false

/-- What is wrong with a part by itself, the flaw that counts first. -/
def Visit.flaws : Visit → List Flaw
  | ⟨scope, negated, .group connective members⟩ =>
    Flaw.when members.isEmpty (.emptyGroup (connective.under negated) scope.name)
  | ⟨scope, negated, .test field op _⟩ =>
    scope.flaws field op
      ++ (Flaw.when (negated && op.isArrayTest) (.negatedOperator op field)
        ++ Flaw.when (!negated && op = .elemMatch) (.missingCriteria op scope.name field))
  | ⟨scope, negated, .element field _ _⟩ =>
    scope.flaws field .elemMatch ++ Flaw.when negated (.negatedOperator .elemMatch field)
  | ⟨_, _, .not _⟩ => []

/-- All that is wrong with a predicate, in the order of its parts. -/
def Predicate.flaws (scope : Schema) (negated : Bool) (p : Predicate) : List Flaw :=
  (p.visits scope negated).flatMap Visit.flaws

/-! ## What preparation comes to -/

/-- A field is looked up before its types are compared with the operator. -/
theorem Schema.resolve_endsAt (scope : Schema) (field : String) (op : Operator) :
    EndsAt ((scope.flaws field op).map Flaw.defect) (scope.resolve field op) := by
  rw [flaws, resolve]
  cases scope.descriptor? field with
  | none => exact rfl
  | some descriptor =>
    cases hsupports : descriptor.supports op with
    | true => simp [EndsAt, Flaw.when, hsupports]
    | false => simp [EndsAt, Flaw.when, Flaw.unsuitedOperator, hsupports]

/-- A leaf fails by its polarity, or for lack of criteria. -/
theorem Node.leafUnder_endsAt (negated : Bool) (scope field : String) (op : Operator)
    (slot : SlotId) :
    EndsAt
      ((Flaw.when (negated && op.isArrayTest) (.negatedOperator op field)
        ++ Flaw.when (!negated && op = .elemMatch) (.missingCriteria op scope field)).map
          Flaw.defect)
      (leafUnder negated scope field op slot) := by
  cases negated with
  | true =>
    cases op with
    | all | elemMatch | size => exact rfl
    | _ => exact ⟨_, rfl⟩
  | false =>
    cases op with
    | elemMatch => exact rfl
    | _ => exact ⟨_, rfl⟩

namespace Predicate

variable {scope : Schema} {negated : Bool}

theorem flaws_test {field : String} {op : Operator} {position : Nat} :
    (test field op position).flaws scope negated =
      Visit.flaws ⟨scope, negated, .test field op position⟩ := by
  rw [flaws, visits, List.flatMap_singleton]

/-- An element test is checked itself before its criteria, which are over the fields of its
elements. -/
theorem flaws_element {field : String} {fields : List FieldDescriptor} {criteria : Predicate} :
    (element field fields criteria).flaws scope negated =
      Visit.flaws ⟨scope, negated, .element field fields criteria⟩ ++
        criteria.flaws ⟨field, fields⟩ false := by
  rw [flaws, visits, List.flatMap_cons, flaws]

theorem flaws_group {connective : Connective} {members : List Predicate} :
    (group connective members).flaws scope negated =
      Visit.flaws ⟨scope, negated, .group connective members⟩ ++
        (allVisits scope negated members).flatMap Visit.flaws := by
  rw [flaws, visits, List.flatMap_cons]

mutual

/-- A predicate ends with the defect of its first flaw, or with a node if it has none. -/
theorem toNode_endsAt : ∀ (p : Predicate) (scope : Schema) (negated : Bool) (table : List Nat),
    EndsAt ((p.flaws scope negated).map Flaw.defect) (p.toNode scope negated table)
  | .test field op position, scope, negated, table => by
    rw [flaws_test, Visit.flaws, List.map_append, toNode]
    refine (scope.resolve_endsAt field op).bind fun _ _ => ?_
    exact (Node.leafUnder_endsAt negated scope.name field op _).bind_ok fun _ _ => ⟨_, rfl⟩
  | .element field fields criteria, scope, negated, table => by
    rw [flaws_element, Visit.flaws, List.append_assoc, List.map_append, toNode]
    refine (scope.resolve_endsAt field .elemMatch).bind fun _ _ => ?_
    cases negated with
    | true => exact rfl
    | false =>
      exact (toNode_endsAt criteria ⟨field, fields⟩ false table).bind_ok fun _ _ => ⟨_, rfl⟩
  | .group connective [], scope, negated, table => by
    rw [flaws_group, toNode]
    exact rfl
  | .group connective (p :: ps), scope, negated, table => by
    rw [flaws_group, toNode]
    exact (toOperands_endsAt (p :: ps) scope negated (connective.under negated) table).bind_ok
      fun _ _ => ⟨_, rfl⟩
  | .not inner, scope, negated, table => toNode_endsAt inner scope (!negated) table

/-- The members of a group are prepared in order, and the first flaw among them counts. -/
theorem toOperands_endsAt : ∀ (ps : List Predicate) (scope : Schema) (negated : Bool)
    (joined : Connective) (table : List Nat),
    EndsAt (((allVisits scope negated ps).flatMap Visit.flaws).map Flaw.defect)
      (toOperands scope negated joined ps table)
  | [], _, _, _, table => ⟨([], table), rfl⟩
  | p :: ps, scope, negated, joined, table => by
    rw [allVisits, List.flatMap_append, List.map_append, toOperands]
    refine (toNode_endsAt p scope negated table).bind fun result _ => ?_
    exact (toOperands_endsAt ps scope negated joined result.2).bind_ok fun _ _ => ⟨_, rfl⟩

end

end Predicate

/-! ## Reports -/

/-- A word stands in a text. -/
def Mentions (text word : String) : Prop := word.toList <:+: text.toList

namespace Mentions

variable {text word : String}

theorem self (word : String) : Mentions word word := List.infix_refl _

/-- A text mentions what its first part mentions. -/
theorem before (h : Mentions text word) (more : String) : Mentions (text ++ more) word := by
  rw [Mentions, String.toList_append]
  exact h.trans (List.prefix_append _ _).isInfix

/-- A text mentions what its last part mentions. -/
theorem after (h : Mentions text word) (more : String) : Mentions (more ++ text) word := by
  rw [Mentions, String.toList_append]
  exact h.trans (List.suffix_append _ _).isInfix

theorem ticked (h : Mentions text word) : Mentions (Defect.ticked text) word :=
  (h.after _).before _

end Mentions

namespace Flaw

/-- The defect of a flaw is reported by its kind, and with a message that names its words. -/
structure Reported (flaw : Flaw) : Prop where
  kind : (Fault.ofDefect flaw.defect).kind = flaw.kind
  names : ∀ word ∈ flaw.names, Mentions (Fault.ofDefect flaw.defect).message word

theorem reported_unknownField (scope field : String) : (unknownField scope field).Reported := by
  refine ⟨rfl, List.forall_mem_singleton.mpr ?_⟩
  exact (Mentions.self field).ticked.after _

theorem reported_unsuitedOperator (op : Operator) (scope field : String) (types : TypeSet) :
    (unsuitedOperator op scope field types).Reported := by
  refine ⟨rfl, List.forall_mem_cons.mpr ⟨?_, List.forall_mem_singleton.mpr ?_⟩⟩
  · exact ((((Mentions.self op.key).ticked.before _).before _).before _).before _
  · exact ((((Mentions.self field).after _).ticked.after _).before _).before _

theorem reported_negatedOperator (op : Operator) (field : String) :
    (negatedOperator op field).Reported := by
  refine ⟨rfl, List.forall_mem_cons.mpr ⟨?_, List.forall_mem_singleton.mpr ?_⟩⟩
  · exact ((((Mentions.self op.key).ticked.after _).before _).before _).before _
  · exact ((Mentions.self field).ticked.after _).before _

theorem reported_missingCriteria (op : Operator) (scope field : String) :
    (missingCriteria op scope field).Reported := by
  refine ⟨rfl, List.forall_mem_cons.mpr ⟨?_, List.forall_mem_singleton.mpr ?_⟩⟩
  · exact (((Mentions.self op.key).ticked.before _).before _).before _
  · exact (((Mentions.self field).after _).ticked.after _).before _

theorem reported_emptyGroup (connective : Connective) (scope : String) :
    (emptyGroup connective scope).Reported := by
  refine ⟨rfl, List.forall_mem_cons.mpr ⟨?_, List.forall_mem_singleton.mpr ?_⟩⟩
  · exact (((Mentions.self connective.text).after _).before _).before _
  · exact (Mentions.self scope).ticked.after _

variable {P : Flaw → Prop}

theorem of_mem_when {condition : Bool} {flaw found : Flaw} (holds : P flaw)
    (h : found ∈ Flaw.when condition flaw) : P found := by
  rw [Flaw.when] at h
  split at h
  · rwa [List.mem_singleton.mp h]
  · cases h

end Flaw

section

variable {P : Flaw → Prop} {flaw : Flaw}

/-- What holds of an unknown field and of an unsuited operator holds of any flaw in a use of an
operator. -/
theorem Schema.of_mem_flaws {scope : Schema} {field : String} {op : Operator}
    (unknown : P (.unknownField scope.name field))
    (unsuited : ∀ types, P (.unsuitedOperator op scope.name field types))
    (h : flaw ∈ scope.flaws field op) : P flaw := by
  rw [flaws] at h
  split at h
  · rw [List.mem_singleton.mp h]
    exact unknown
  · exact Flaw.of_mem_when (unsuited _) h

/-- What holds of the flaws of all five kinds holds of every flaw of a part. -/
theorem Visit.of_mem_flaws {visit : Visit}
    (unknown : ∀ scope field, P (.unknownField scope field))
    (unsuited : ∀ op scope field types, P (.unsuitedOperator op scope field types))
    (negatedOperator : ∀ op field, P (.negatedOperator op field))
    (missing : ∀ op scope field, P (.missingCriteria op scope field))
    (empty : ∀ connective scope, P (.emptyGroup connective scope))
    (h : flaw ∈ visit.flaws) : P flaw := by
  obtain ⟨scope, negated, part⟩ := visit
  cases part with
  | test field op position =>
    rw [flaws, List.mem_append, List.mem_append] at h
    rcases h with h | h | h
    · exact Schema.of_mem_flaws (unknown scope.name field) (unsuited op scope.name field) h
    · exact Flaw.of_mem_when (negatedOperator op field) h
    · exact Flaw.of_mem_when (missing op scope.name field) h
  | element field fields criteria =>
    rw [flaws, List.mem_append] at h
    rcases h with h | h
    · exact Schema.of_mem_flaws (unknown scope.name field) (unsuited .elemMatch scope.name field) h
    · exact Flaw.of_mem_when (negatedOperator .elemMatch field) h
  | group connective members =>
    exact Flaw.of_mem_when (empty (connective.under negated) scope.name) h
  | not inner => cases h

end

/-- Every flaw that a part can have is reported with its words. -/
theorem Visit.reported_of_mem_flaws {visit : Visit} {flaw : Flaw} (h : flaw ∈ visit.flaws) :
    flaw.Reported :=
  Visit.of_mem_flaws Flaw.reported_unknownField Flaw.reported_unsuitedOperator
    Flaw.reported_negatedOperator Flaw.reported_missingCriteria Flaw.reported_emptyGroup h

/-- The defect of a definition is reported as a malformed or an unsupported predicate. -/
theorem Plan.kind_of_prepare {definition : DefinitionId} {schema : Schema} {predicate : Predicate}
    {defect : Defect} (h : prepare definition schema predicate = .error defect) :
    defect.kind = .malformedPredicate ∨ defect.kind = .unsupportedExpression := by
  have ends : EndsAt ((predicate.flaws schema false).map Flaw.defect)
      (prepare definition schema predicate) :=
    (predicate.toNode_endsAt schema false []).bind_ok fun _ _ => ⟨_, rfl⟩
  obtain ⟨flaw, mem, rfl⟩ := List.mem_map.mp (ends.mem_of_error h)
  obtain ⟨visit, -, hflaw⟩ := List.mem_flatMap.mp mem
  exact Visit.of_mem_flaws (P := fun flaw => flaw.defect.kind = .malformedPredicate ∨
      flaw.defect.kind = .unsupportedExpression)
    (fun _ _ => .inl rfl) (fun _ _ _ _ => .inl rfl) (fun _ _ => .inr rfl) (fun _ _ _ => .inl rfl)
    (fun _ _ => .inl rfl) hflaw

/-- **A definition is accepted exactly if its predicate has no flaw**, and otherwise the first flaw
is reported. -/
theorem Plan.prepare_flaws (definition : DefinitionId) (schema : Schema) (predicate : Predicate) :
    ((∃ plan, prepare definition schema predicate = .ok plan) ↔
        predicate.flaws schema false = []) ∧
      ∀ first rest, predicate.flaws schema false = first :: rest →
        prepare definition schema predicate = .error first.defect ∧ first.Reported := by
  have ends : EndsAt ((predicate.flaws schema false).map Flaw.defect)
      (prepare definition schema predicate) :=
    (predicate.toNode_endsAt schema false []).bind_ok fun _ _ => ⟨_, rfl⟩
  refine ⟨ends.ok_iff.trans List.map_eq_nil_iff, fun first rest hflaws => ?_⟩
  have mem : first ∈ predicate.flaws schema false := hflaws ▸ List.mem_cons_self
  obtain ⟨visit, -, hfirst⟩ := List.mem_flatMap.mp mem
  rw [hflaws] at ends
  exact ⟨ends, Visit.reported_of_mem_flaws hfirst⟩

/-- Of four flaws, one in each member of a group, the first is reported. -/
theorem Plan.prepare_flaws_foo :
    let predicate := Predicate.all [.not (Gallery.tags.size ⟨0⟩), .not (.any []),
      .element "tags" [] (.test "city" .eq 1), .test "tags" .elemMatch 2]
    let flaws := [Flaw.negatedOperator .size "tags", .emptyGroup .conjunction "Foo",
      .unknownField "tags" "city", .missingCriteria .elemMatch "Foo" "tags"]
    predicate.flaws Gallery.foo false = flaws ∧
      prepare Gallery.dangling.definition Gallery.foo predicate =
        .error (.negatedOperator .size "tags") ∧
      (Flaw.negatedOperator .size "tags").Reported := by
  intro predicate flaws
  have all : predicate.flaws Gallery.foo false = flaws := rfl
  exact ⟨all, (prepare_flaws Gallery.dangling.definition Gallery.foo predicate).2 _ _ all⟩

end PreparedFilter
