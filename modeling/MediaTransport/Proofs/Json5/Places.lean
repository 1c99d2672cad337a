/-
# MediaTransport.Proofs.Json5.Places -- documents without their places

Two documents that differ in blanks and comments are trees that differ in the places of their
nodes.  A tree is bare when all its places are the same one (`Value.bare`), so that two trees
are the same document where their bare trees are equal.  Places serve to report errors only:
what a bare tree says is what the tree says (`content_bare`).

An answer without its error is an `Option`.  Readers are compared that way, because of what is
wrong with a document only the first thing is reported, and which one is the first depends on
how the document is written.
-/
import MediaTransport.Json5.Content

namespace MediaTransport

set_option autoImplicit false

/-! ## Answers without their errors -/

section Answers

variable {ε α β : Type}

@[simp] theorem toOption_ok (a : α) : (Except.ok a : Except ε α).toOption = some a := rfl

@[simp] theorem toOption_error (e : ε) : (Except.error e : Except ε α).toOption = none := rfl

@[simp] theorem toOption_pure (a : α) : (pure a : Except ε α).toOption = some a := rfl

@[simp] theorem toOption_bind (x : Except ε α) (f : α → Except ε β) :
    (x >>= f).toOption = x.toOption.bind fun a => (f a).toOption := by
  cases x <;> rfl

@[simp] theorem toOption_map (f : α → β) (x : Except ε α) :
    (x.map f).toOption = x.toOption.map f := by
  cases x <;> rfl

theorem toOption_eq_some_iff {x : Except ε α} {a : α} : x.toOption = some a ↔ x = .ok a := by
  cases x <;> simp

theorem toOption_eq_none_iff {x : Except ε α} : x.toOption = none ↔ ∀ a, x ≠ .ok a := by
  cases x <;> simp

theorem toOption_eq_of_iff {ε' : Type} {x : Except ε α} {y : Except ε' α}
    (same : ∀ a, x = .ok a ↔ y = .ok a) : x.toOption = y.toOption :=
  Option.ext fun a => by rw [toOption_eq_some_iff, toOption_eq_some_iff, same]

end Answers

namespace Json5

@[simp] theorem toOption_located {α : Type} (mark : Mark) (x : Except Flaw α) :
    (located mark x).toOption = x.toOption := by
  cases x <;> rfl

@[simp] theorem toOption_name (k : Key) : k.name.toOption = k.content := by
  cases content : k.content <;> simp [Key.name, textContent, content]

/-! ## Bare documents -/

/-- A key at the start of the text. -/
def Key.bare (k : Key) : Key :=
  ⟨.start, k.content⟩

mutual

/-- A document with all its nodes at the start of the text. -/
def Value.bare : Value → Value
  | .null _ => .null .start
  | .bool _ value => .bool .start value
  | .number _ text => .number .start text
  | .string _ content => .string .start content
  | .array _ items => .array .start (bareItems items)
  | .object _ members => .object .start (bareMembers members)

def bareItems : List Value → List Value
  | [] => []
  | item :: rest => item.bare :: bareItems rest

def bareMembers : List (Key × Value) → List (Key × Value)
  | [] => []
  | (key, value) :: rest => (key.bare, value.bare) :: bareMembers rest

end

@[simp] theorem bareItems_eq_map (items : List Value) : bareItems items = items.map .bare := by
  induction items with
  | nil => rfl
  | cons item rest ih => rw [bareItems, ih, List.map_cons]

/-- A member without its places. -/
def bareMember (member : Key × Value) : Key × Value :=
  (member.1.bare, member.2.bare)

@[simp] theorem bareMembers_eq_map (members : List (Key × Value)) :
    bareMembers members = members.map bareMember := by
  induction members with
  | nil => rfl
  | cons member rest ih => rw [bareMembers, ih, List.map_cons, bareMember]

mutual

theorem content_bare : ∀ v : Value, v.bare.content.toOption = v.content.toOption
  | .null _ => rfl
  | .bool _ _ => rfl
  | .number _ _ => by simp [Value.bare, Value.content]
  | .string _ _ => by simp [Value.bare, Value.content]
  | .array _ items => by
      simp only [Value.bare, Value.content, toOption_map, itemContents_bare items]
  | .object _ members => by
      simp only [Value.bare, Value.content, toOption_map, memberContents_bare members]

theorem itemContents_bare :
    ∀ items, (itemContents (bareItems items)).toOption = (itemContents items).toOption
  | [] => rfl
  | item :: rest => by
      simp only [bareItems, itemContents, toOption_bind, toOption_pure, content_bare item,
        itemContents_bare rest]

theorem memberContents_bare :
    ∀ members, (memberContents (bareMembers members)).toOption = (memberContents members).toOption
  | [] => rfl
  | (key, value) :: rest => by
      simp only [bareMembers, memberContents, toOption_bind, toOption_pure, toOption_name, Key.bare,
        content_bare value, memberContents_bare rest]

end

end Json5

end MediaTransport
