/-!
# Members of an object

An object holds its members in the order of their names, each name once. `insert` replaces a member
of the same name or takes its place in the order.
-/

namespace Relay.Json

/-- Named values in ascending order of their names. -/
abbrev Members (α : Type) := List (String × α)

namespace Members

variable {α : Type}

def Ordered (members : Members α) : Prop := members.Pairwise fun a b => a.1 < b.1

def get? (key : String) : Members α → Option α
  | [] => none
  | (name, value) :: rest => if name = key then some value else get? key rest

def insert (key : String) (value : α) : Members α → Members α
  | [] => [(key, value)]
  | (name, old) :: rest =>
    if key = name then (key, value) :: rest
    else if key < name then (key, value) :: (name, old) :: rest
    else (name, old) :: insert key value rest

def erase (key : String) (members : Members α) : Members α :=
  members.filter fun member => member.1 != key

/-- The members bound one after another, a later binding of a name replacing an earlier one. -/
def ofList (bindings : List (String × α)) : Members α :=
  bindings.foldl (fun members binding => insert binding.1 binding.2 members) []

@[simp] theorem get?_nil (key : String) : get? key ([] : Members α) = none := rfl

theorem get?_insert (key other : String) (value : α) (members : Members α) :
    get? other (insert key value members) =
      if key = other then some value else get? other members := by
  induction members with
  | nil => simp [insert, get?]
  | cons member rest ih =>
    obtain ⟨name, old⟩ := member
    by_cases same : key = name
    · subst same
      simp only [insert, ↓reduceIte, get?]
      split <;> rfl
    · by_cases before : key < name
      · simp only [insert, same, before, ↓reduceIte, get?]
      · by_cases found : name = other
        · subst found
          simp [insert, same, before, get?]
        · simp [insert, same, before, get?, found, ih]

end Members
end Relay.Json
