import PreparedFilter.Gallery.Filters
import PreparedFilter.Plan.Query
import PreparedFilter.Proofs.Preparation.NormalForm

/-!
# One predicate in several spellings

A condition can be grouped in several ways, and its negations can stand in several places. Spellings
that differ in nothing else (`Predicate.Respelled`) are prepared alike: to the same root and table,
or to the same defect (`Plan.prepare_respelled`).

The two laws of groups rest on the normal form. A group gives back its members when it is spliced
into a group of the same connective (`Node.operands_join`), because no member is such a group
itself; and what stands alone in a group stands for itself (`Node.join_operands`). An empty group is
a defect wherever it stands, so it is never spliced.
-/

namespace PreparedFilter

/-! ## Respelling -/

namespace Predicate

mutual

/-- The least congruence with the laws of double negation, of De Morgan and of nested groups. -/
inductive Respelled : Predicate → Predicate → Prop where
  | refl (p : Predicate) : Respelled p p
  | symm {p q : Predicate} (same : Respelled p q) : Respelled q p
  | trans {p q r : Predicate} (first : Respelled p q) (second : Respelled q r) : Respelled p r
  | element {field : String} {fields : List FieldDescriptor} {p q : Predicate}
      (criteria : Respelled p q) : Respelled (.element field fields p) (.element field fields q)
  | group {c : Connective} {ps qs : List Predicate} (members : AllRespelled ps qs) :
      Respelled (.group c ps) (.group c qs)
  | not {p q : Predicate} (inner : Respelled p q) : Respelled (.not p) (.not q)
  | notNot (p : Predicate) : Respelled (.not (.not p)) p
  | notAll (ps : List Predicate) : Respelled (.not (.all ps)) (.any (ps.map .not))
  | notAny (ps : List Predicate) : Respelled (.not (.any ps)) (.all (ps.map .not))
  | splice (c : Connective) (ps : List Predicate) {qs : List Predicate} (rs : List Predicate)
      (nonempty : qs ≠ []) :
      Respelled (.group c (ps ++ [.group c qs] ++ rs)) (.group c (ps ++ qs ++ rs))
  | single (c : Connective) (p : Predicate) : Respelled (.group c [p]) p

/-- Lists of predicates that are respelled one by one. -/
inductive AllRespelled : List Predicate → List Predicate → Prop where
  | nil : AllRespelled [] []
  | cons {p q : Predicate} {ps qs : List Predicate} (first : Respelled p q)
      (rest : AllRespelled ps qs) : AllRespelled (p :: ps) (q :: qs)

end

theorem AllRespelled.isEmpty_eq {ps qs : List Predicate} (h : AllRespelled ps qs) :
    ps.isEmpty = qs.isEmpty := by
  cases h with
  | nil => rfl
  | cons first rest => rfl

/-- A conjunction of three does not depend on which two come first. -/
theorem Respelled.and_assoc (a b c : Predicate) :
    Respelled ((a &&& b) &&& c) (a &&& (b &&& c)) := by
  have left : Respelled ((a &&& b) &&& c) (.all [a, b, c]) :=
    .splice .conjunction [] [c] (List.cons_ne_nil a [b])
  have right : Respelled (a &&& (b &&& c)) (.all [a, b, c]) :=
    .splice .conjunction [a] [] (List.cons_ne_nil b [c])
  exact left.trans right.symm

end Predicate

/-! ## Joining and splicing -/

namespace Node

/-- A joined group gives its nodes back to a group of the same connective. -/
theorem operands_join {c : Connective} {nodes : List Node} (h : AllNormalApart c nodes) :
    (join c nodes).operands c = nodes := by
  rw [join.eq_def]
  split
  · next node =>
    -- a node that stands for itself is no group of the connective
    obtain ⟨-, apart, -⟩ := h
    cases node with
    | group c' members => exact if_neg apart
    | _ => rfl
  · rw [operands, if_pos rfl]

/-- A node alone in a group stands for itself, also if the group takes it apart. -/
theorem join_operands (c : Connective) {node : Node} (h : node.Normal) :
    join c (node.operands c) = node := by
  cases node with
  | group c' members =>
    rw [operands]
    split
    · next same =>
      subst same
      obtain ⟨two, -⟩ := h
      rw [join.eq_def]
      split
      · simp at two
      · rfl
    · rfl
  | _ => rfl

end Node

theorem Connective.under_dual (c : Connective) (negated : Bool) :
    c.dual.under negated = c.under (!negated) := by
  cases negated with
  | false => rfl
  | true => exact c.dual_dual

namespace Predicate

variable (scope : Schema) (negated : Bool)

/-! ## Operands -/

/-- The operands of two lists are those of the first one and then those of the second. -/
theorem toOperands_append (joined : Connective) (qs : List Predicate) :
    ∀ (ps : List Predicate) (table : List Nat),
      toOperands scope negated joined (ps ++ qs) table =
        (toOperands scope negated joined ps table >>= fun first =>
          toOperands scope negated joined qs first.2 >>= fun rest =>
            pure (first.1 ++ rest.1, rest.2))
  | [], table => by
    rw [List.nil_append, toOperands]
    exact (bind_pure _).symm
  | p :: ps, table => by
    rw [List.cons_append, toOperands_cons, toOperands_cons]
    simp only [toOperands_append joined qs ps, bind_assoc, pure_bind, List.append_assoc]

/-- Operands that agree may take each other's place between others. -/
theorem toOperands_between {joined : Connective} {qs qs' : List Predicate}
    (same : ∀ table, toOperands scope negated joined qs table =
      toOperands scope negated joined qs' table) (ps rs : List Predicate) (table : List Nat) :
    toOperands scope negated joined (ps ++ qs ++ rs) table =
      toOperands scope negated joined (ps ++ qs' ++ rs) table := by
  simp only [toOperands_append, same]

/-- Negating each member is changing the polarity of all. -/
theorem toOperands_map_not (joined : Connective) : ∀ (ps : List Predicate) (table : List Nat),
    toOperands scope negated joined (ps.map .not) table =
      toOperands scope (!negated) joined ps table
  | [], table => by rw [List.map_nil, toOperands, toOperands]
  | p :: ps, table => by
    rw [List.map_cons, toOperands_cons, toOperands_cons, toNode_not]
    simp only [toOperands_map_not joined ps]

/-- A member that is a group of the same connective is replaced by its members. -/
theorem toOperands_group {c : Connective} {qs : List Predicate} (nonempty : qs ≠ [])
    (table : List Nat) :
    toOperands scope negated (c.under negated) [.group c qs] table =
      toOperands scope negated (c.under negated) qs table := by
  rw [toOperands_cons, toNode_group nonempty]
  cases h : toOperands scope negated (c.under negated) qs table with
  | error defect => rfl
  | ok result =>
    have apart := (allNormalApart_toOperands qs h).1
    show Except.ok ((Node.join _ result.1).operands _ ++ [], result.2) = .ok result
    rw [List.append_nil, Node.operands_join apart]

/-- A group of one member is prepared like the member. -/
theorem toNode_single (c : Connective) (p : Predicate) (table : List Nat) :
    (group c [p]).toNode scope negated table = p.toNode scope negated table := by
  rw [toNode_group (List.cons_ne_nil p []), toOperands_cons]
  cases h : p.toNode scope negated table with
  | error defect => rfl
  | ok result =>
    have normal := normal_toNode p h
    show Except.ok (Node.join _ (result.1.operands _ ++ []), result.2) = .ok result
    rw [List.append_nil, Node.join_operands _ normal]

/-- A negated group is the other group of the negated members, also if there are none. -/
theorem toNode_not_group (c : Connective) (ps : List Predicate) (table : List Nat) :
    (not (.group c ps)).toNode scope negated table =
      (group c.dual (ps.map .not)).toNode scope negated table := by
  rw [toNode_not, toNode, toNode, Connective.under_dual]
  simp only [toOperands_map_not, List.isEmpty_map]

/-! ## Congruence -/

mutual

/-- Spellings of one predicate come to the same node and table, or to the same defect. -/
theorem Respelled.toNode_eq : ∀ {p q : Predicate}, p.Respelled q →
    ∀ (scope : Schema) (negated : Bool) (table : List Nat),
      p.toNode scope negated table = q.toNode scope negated table
  | _, _, .refl p, _, _, _ => rfl
  | _, _, .symm same, scope, negated, table => (same.toNode_eq scope negated table).symm
  | _, _, .trans first second, scope, negated, table =>
    (first.toNode_eq scope negated table).trans (second.toNode_eq scope negated table)
  | _, _, .element criteria, scope, negated, table => by
    rw [toNode, toNode]
    simp only [criteria.toNode_eq]
  | _, _, .group (c := c) members, scope, negated, table => by
    rw [toNode, toNode, members.isEmpty_eq, members.toOperands_eq scope negated (c.under negated)]
  | _, _, .not inner, scope, negated, table => by
    rw [toNode_not, toNode_not, inner.toNode_eq]
  | _, _, .notNot p, scope, negated, table => by
    rw [toNode_not, toNode_not, Bool.not_not]
  | _, _, .notAll ps, scope, negated, table => toNode_not_group scope negated .conjunction ps table
  | _, _, .notAny ps, scope, negated, table => toNode_not_group scope negated .disjunction ps table
  | _, _, .splice c ps rs nonempty, scope, negated, table => by
    rw [toNode_group (by simp), toNode_group (by simp [nonempty]),
      toOperands_between scope negated (toOperands_group scope negated nonempty) ps rs]
  | _, _, .single c p, scope, negated, table => toNode_single scope negated c p table

/-- Members that are respelled one by one have the same operands. -/
theorem AllRespelled.toOperands_eq : ∀ {ps qs : List Predicate}, AllRespelled ps qs →
    ∀ (scope : Schema) (negated : Bool) (joined : Connective) (table : List Nat),
      toOperands scope negated joined ps table = toOperands scope negated joined qs table
  | _, _, .nil, _, _, _, _ => rfl
  | _, _, .cons first rest, scope, negated, joined, table => by
    rw [toOperands_cons, toOperands_cons, first.toNode_eq]
    simp only [rest.toOperands_eq]

end

end Predicate

/-! ## Plans -/

namespace Plan

/-- **The plan of a predicate does not depend on its spelling.** Spellings of one predicate are
prepared to the same root and the same table, or fail by the same defect, whatever definitions they
belong to. So conjunctions of three are queried alike, whichever two come first. -/
theorem prepare_respelled (definition definition' : DefinitionId) (schema : Schema) :
    (∀ p q : Predicate, p.Respelled q →
      (prepare definition schema p).map (fun plan => (plan.root, plan.slots)) =
        (prepare definition' schema q).map (fun plan => (plan.root, plan.slots))) ∧
    ∀ (a b c : Predicate) (style : QueryStyle) (values : List Bson),
      (prepare definition schema ((a &&& b) &&& c) >>= fun plan => plan.query style values) =
        (prepare definition' schema (a &&& (b &&& c)) >>= fun plan => plan.query style values) := by
  constructor
  · intro p q same
    rw [prepare, prepare, same.toNode_eq]
    cases q.toNode schema false [] with
    | error defect => rfl
    | ok result => rfl
  · intro a b c style values
    rw [prepare, prepare, (Predicate.Respelled.and_assoc a b c).toNode_eq]
    cases (a &&& (b &&& c)).toNode schema false [] with
    | error defect => rfl
    | ok result => rfl

/-- A negated group in an element test, respelled by the dual connective, without the double
negation and without the nested group. -/
theorem prepare_respelled_foo :
    let a := Gallery.city.lt ⟨1⟩
    let b := Gallery.zip.eq ⟨0⟩
    let c := Predicate.any [Gallery.city.ne ⟨0⟩, .not (Gallery.zip.eq ⟨2⟩)]
    let p := Gallery.locations.elemMatch Gallery.location (.not (.any [.not (a &&& b), c]))
    let q := Gallery.locations.elemMatch Gallery.location (.all [a, b, .not c])
    let root := Node.element "locations" (.group .conjunction
      [.comparison "city" .lt ⟨0⟩, .comparison "zip" .eq ⟨1⟩, .comparison "city" .eq ⟨2⟩,
        .comparison "zip" .eq ⟨3⟩])
    p.Respelled q ∧
      (prepare Gallery.dangling.definition Gallery.foo q).map (fun plan => (plan.root, plan.slots))
        = .ok (root, [1, 0, 0, 2]) ∧
      (prepare (Gallery.flagGt true).definition Gallery.foo p).map
        (fun plan => (plan.root, plan.slots)) = .ok (root, [1, 0, 0, 2]) := by
  intro a b c p q root
  have same : p.Respelled q := by
    refine .element ?_
    have pushed : (Predicate.not (.any [.not (a &&& b), c])).Respelled
        (.all [.not (.not (a &&& b)), .not c]) := .notAny _
    have restored : (Predicate.all [.not (.not (a &&& b)), .not c]).Respelled
        (.all [a &&& b, .not c]) := .group (.cons (.notNot _) (.cons (.refl _) .nil))
    have spliced : (Predicate.all [a &&& b, .not c]).Respelled (.all [a, b, .not c]) :=
      .splice .conjunction [] [.not c] (List.cons_ne_nil a [b])
    exact pushed.trans (restored.trans spliced)
  have prepared : (prepare Gallery.dangling.definition Gallery.foo q).map
      (fun plan => (plan.root, plan.slots)) = .ok (root, [1, 0, 0, 2]) := by decide
  have alike := (prepare_respelled (Gallery.flagGt true).definition Gallery.dangling.definition
    Gallery.foo).1 p q same
  exact ⟨same, prepared, alike.trans prepared⟩

end Plan

end PreparedFilter
