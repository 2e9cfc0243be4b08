import WebPage.NodeId

/-!
# Failures of a document

Every operation on a document that can fail gives its cause. The wording of the message is in one
place, `DomError.message`.

## Main definitions

* `HierarchyFault`: why an insertion or a removal would break the tree
* `DomError`: the causes of failure
* `DomError.message`: their texts
* `refuseIf`: the failure of an operation whose condition is not met
-/

namespace WebPage

/-- Why an insertion or a removal would break the tree. -/
inductive HierarchyFault where
  /-- The parent is a text or a comment. -/
  | childless (parent : NodeRef)
  /-- The node to insert is the document node. -/
  | documentInserted
  /-- The node to insert contains its new parent, or is the parent itself. -/
  | containsParent (child parent : NodeRef)
  /-- The node to insert before is a child of some other node. -/
  | notChild (before parent : NodeRef)
  /-- The node to take out is the document node. -/
  | documentRemoved (node : NodeRef)
deriving DecidableEq, Repr

/-- The causes of failure of an operation on a document. -/
inductive DomError where
  /-- The arena has no such node. -/
  | notFound (node : NodeRef)
  /-- An element is needed, and the node is something else. -/
  | notAnElement (node : NodeRef)
  /-- The tree would break. -/
  | hierarchy (fault : HierarchyFault)
  /-- The text is no selector. -/
  | invalidSelector (text : String)
  /-- The text is no name of an element or an attribute. -/
  | invalidName (text : String)
  /-- The text is no name of a style property. -/
  | invalidProperty (text : String)
deriving DecidableEq, Repr

/-- What a broken hierarchy is about. -/
def HierarchyFault.message : HierarchyFault → String
  | childless parent => NodeRef.text parent ++ " cannot have children"
  | documentInserted => "the document node cannot be inserted"
  | containsParent child parent =>
    NodeRef.text child ++ " is an ancestor of " ++ NodeRef.text parent
  | notChild before parent => NodeRef.text before ++ " is not a child of " ++ NodeRef.text parent
  | documentRemoved node => NodeRef.text node ++ " is the document node"

/-- The message of a failure. -/
def DomError.message : DomError → String
  | notFound node => NodeRef.text node ++ " not found"
  | notAnElement node => NodeRef.text node ++ " is not an element"
  | hierarchy fault => "hierarchy request error: " ++ fault.message
  | invalidSelector text => "'" ++ text ++ "' is not a valid selector"
  | invalidName text => "'" ++ text ++ "' is not a valid name"
  | invalidProperty text => "'" ++ text ++ "' is not a valid style property"

/-- Fails for a reason where a condition holds. -/
def refuseIf (condition : Prop) [Decidable condition] (e : DomError) : Except DomError Unit :=
  if condition then .error e else .ok ()

theorem refuseIf_eq_ok {condition : Prop} [Decidable condition] {e : DomError} {u : Unit} :
    refuseIf condition e = .ok u ↔ ¬ condition := by
  unfold refuseIf
  split <;> simp [*]

@[simp] theorem ok_bind {ε α β : Type} (a : α) (f : α → Except ε β) :
    ((.ok a : Except ε α) >>= f) = f a := rfl

@[simp] theorem error_bind {ε α β : Type} (e : ε) (f : α → Except ε β) :
    ((.error e : Except ε α) >>= f) = .error e := rfl

@[simp] theorem pure_eq_ok {ε α : Type} (a : α) : (pure a : Except ε α) = .ok a := rfl

/-- What runs in sequence succeeds if each part does. -/
theorem bind_eq_ok {ε α β : Type} {x : Except ε α} {f : α → Except ε β} {b : β} :
    (x >>= f) = .ok b ↔ ∃ a, x = .ok a ∧ f a = .ok b := by
  cases x <;> simp

/-- What is read off the result of a success. -/
theorem map_toOption_eq_some {ε α β : Type} {x : Except ε α} {f : α → β} {b : β} :
    x.toOption.map f = some b ↔ ∃ a, x = .ok a ∧ f a = b := by
  cases x <;> simp [Except.toOption]

theorem return_snd_eq_ok {ε α β : Type} {x : Except ε (α × β)} {b : β} :
    (return (← x).2) = Except.ok b ↔ ∃ a, x = .ok (a, b) := by
  cases x with
  | error e => simp
  | ok r =>
    obtain ⟨a, b'⟩ := r
    simp

end WebPage
