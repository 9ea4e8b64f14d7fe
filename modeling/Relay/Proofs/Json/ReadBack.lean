import Relay.Json.Reader
import Relay.Proofs.Json.StringText

/-!
# Printed documents are read

The compact text of a document is read as that document with each number as its own text is read, provided that this
is a number at all and that the document nests no deeper than a reader goes. A double is read in steps, so it can
come back as one of its neighbours; `NumbersReadBack` says of a document that none of its numbers does.
`tokens_render` finds the tokens of the text and `parse_render` the document.
-/

namespace Relay.Json

/-! ### The tokens of a printed document -/

mutual

def printed : Json → List Token
  | .null => [.null]
  | .bool b => [.bool b]
  | .num n => [.num (.ok n)]
  | .str s => [.str (.ok s)]
  | .arr items => .listOpen :: (printedItems true items ++ [.listClose])
  | .obj members => .mapOpen :: (printedMembers true members ++ [.mapClose])

def printedItems : Bool → List Json → List Token
  | _, [] => []
  | first, v :: rest => (if first then [] else [.comma]) ++ printed v ++ printedItems false rest

def printedMembers : Bool → List (String × Json) → List Token
  | _, [] => []
  | first, (k, v) :: rest =>
    (if first then [] else [.comma]) ++ .str (.ok k) :: .colon :: printed v ++ printedMembers false rest

end

/-- A text that does not go on with a number that stands before it. -/
def EndsNumber (cs : List Char) : Prop :=
  ∀ c ∈ cs.head?, c.isDigit = false ∧ c ≠ '.' ∧ c ≠ 'e' ∧ c ≠ 'E'

/-- The text of a number is read as another number, or as the same one, whatever follows behind its end. -/
def Number.ReadsAs (n m : Number) : Prop :=
  ∀ rest, EndsNumber rest →
    ∃ c cs, n.chars = c :: cs ∧ isSpace c = false ∧ token c (cs ++ rest) = (.num (.ok m), rest)

/-- What the text of a number is read as. -/
def Number.reread (n : Number) : Number :=
  match parse n.text with
  | .ok (.num m) => m
  | _ => n

mutual

/-- A document with what the text of each number is read as in the place of the number. -/
def reread : Json → Json
  | .num n => .num n.reread
  | .arr items => .arr (rereadItems items)
  | .obj members => .obj (rereadMembers members)
  | v => v

def rereadItems : List Json → List Json
  | [] => []
  | v :: rest => reread v :: rereadItems rest

def rereadMembers : List (String × Json) → List (String × Json)
  | [] => []
  | (k, v) :: rest => (k, reread v) :: rereadMembers rest

end

/-- Every number of a document is read as itself from its own text. -/
def NumbersReadBack (v : Json) : Prop := v.reread = v

mutual

/-- Every number of a document is read as some number from its own text. -/
def NumbersReadable : Json → Prop
  | .num n => n.ReadsAs n.reread
  | .arr items => NumbersReadableItems items
  | .obj members => NumbersReadableMembers members
  | _ => True

def NumbersReadableItems : List Json → Prop
  | [] => True
  | v :: rest => NumbersReadable v ∧ NumbersReadableItems rest

def NumbersReadableMembers : List (String × Json) → Prop
  | [] => True
  | (_, v) :: rest => NumbersReadable v ∧ NumbersReadableMembers rest

end

/-- Some tokens stand at the front of a text, and the rest of it follows them. -/
structure Begins (cs : List Char) (ts : List Token) (rest : List Char) : Prop where
  fits : ts.length + rest.length ≤ cs.length
  read : ∀ fuel, tokensFrom (fuel + ts.length) cs = ts ++ tokensFrom fuel rest

namespace Begins

theorem nil (cs : List Char) : Begins cs [] cs := ⟨by simp, fun _ => rfl⟩

theorem append {cs mid rest : List Char} {ts us : List Token} (front : Begins cs ts mid)
    (back : Begins mid us rest) : Begins cs (ts ++ us) rest where
  fits := by
    have first := front.fits
    have second := back.fits
    rw [List.length_append]
    omega
  read := by
    intro fuel
    rw [List.length_append, Nat.add_comm ts.length, ← Nat.add_assoc, front.read, back.read,
      List.append_assoc]

theorem single {c : Char} {cs rest : List Char} {t : Token} (solid : isSpace c = false)
    (read : token c cs = (t, rest)) (shorter : rest.length ≤ cs.length) : Begins (c :: cs) [t] rest where
  fits := by simp; omega
  read := by simp [tokensFrom, solid, read]

theorem cons {c : Char} {cs rest : List Char} {t : Token} {ts : List Token} (solid : isSpace c = false)
    (read : token c cs = (t, cs)) (back : Begins cs ts rest) : Begins (c :: cs) (t :: ts) rest :=
  (single solid read (Nat.le_refl _)).append back

theorem string (s : String) (rest : List Char) : Begins (stringChars s ++ rest) [.str (.ok s)] rest := by
  rw [stringChars, List.cons_append, List.append_assoc, List.singleton_append]
  exact single (by decide) (stringToken_printed s rest) (by simp; omega)

end Begins

theorem endsNumber_items {rest : List Char} (ends : EndsNumber rest) (items : List Json) :
    EndsNumber (charsItems false items ++ rest) := by
  cases items with
  | nil => exact ends
  | cons v items => simp [EndsNumber, charsItems]

theorem endsNumber_members {rest : List Char} (ends : EndsNumber rest) (members : List (String × Json)) :
    EndsNumber (charsMembers false members ++ rest) := by
  cases members with
  | nil => exact ends
  | cons member members => simp [EndsNumber, charsMembers]

theorem begins_comma (first : Bool) {cs rest : List Char} {ts : List Token} (back : Begins cs ts rest) :
    Begins ((if first then [] else [',']) ++ cs) ((if first then [] else [.comma]) ++ ts) rest := by
  cases first with
  | true => exact back
  | false => exact .cons (by decide) rfl back

mutual

theorem begins_chars (v : Json) (numbers : NumbersReadable v) (rest : List Char)
    (ends : EndsNumber rest) : Begins (chars v ++ rest) (printed v.reread) rest := by
  match v with
  | .null => exact .single (by decide) rfl (by simp; omega)
  | .bool true => exact .single (by decide) rfl (by simp; omega)
  | .bool false => exact .single (by decide) rfl (by simp; omega)
  | .num n =>
    obtain ⟨c, cs, shown, solid, read⟩ := numbers rest ends
    rw [chars, shown]
    exact .single solid read (by simp)
  | .str s => exact .string s rest
  | .arr items =>
    have inside := begins_items true items numbers (']' :: rest) (by simp [EndsNumber])
    rw [chars, List.cons_append, List.append_assoc]
    exact .cons (by decide) rfl (inside.append (.single (by decide) rfl (Nat.le_refl _)))
  | .obj members =>
    have inside := begins_members true members numbers ('\x7d' :: rest) (by simp [EndsNumber])
    rw [chars, List.cons_append, List.append_assoc]
    exact .cons (by decide) rfl (inside.append (.single (by decide) rfl (Nat.le_refl _)))

theorem begins_items (first : Bool) (items : List Json) (numbers : NumbersReadableItems items)
    (rest : List Char) (ends : EndsNumber rest) :
    Begins (charsItems first items ++ rest) (printedItems first (rereadItems items)) rest := by
  match items with
  | [] => exact .nil rest
  | v :: items =>
    have here := begins_chars v numbers.1 _ (endsNumber_items ends items)
    have there := begins_items false items numbers.2 rest ends
    rw [charsItems, rereadItems, printedItems, List.append_assoc, List.append_assoc, List.append_assoc]
    exact begins_comma first (here.append there)

theorem begins_members (first : Bool) (members : List (String × Json))
    (numbers : NumbersReadableMembers members) (rest : List Char) (ends : EndsNumber rest) :
    Begins (charsMembers first members ++ rest) (printedMembers first (rereadMembers members)) rest := by
  match members with
  | [] => exact .nil rest
  | (k, v) :: members =>
    have here := begins_chars v numbers.1 _ (endsNumber_members ends members)
    have there := begins_members false members numbers.2 rest ends
    rw [charsMembers, rereadMembers, printedMembers]
    simp only [List.append_assoc, List.cons_append]
    exact begins_comma first ((Begins.string k _).append (.cons (by decide) rfl (here.append there)))

end

theorem tokens_of_begins {cs : List Char} {ts : List Token} (whole : Begins cs ts []) :
    tokens (String.ofList cs) = ts := by
  have fits := whole.fits
  simp only [tokens, String.toList_ofList]
  rw [show cs.length = cs.length - ts.length + ts.length by simp at fits; omega, whole.read]
  cases cs.length - ts.length <;> simp [tokensFrom]

theorem tokens_render (v : Json) (numbers : NumbersReadable v) : tokens v.render = printed v.reread := by
  have whole := begins_chars v numbers [] (by simp [EndsNumber])
  rw [List.append_nil] at whole
  exact tokens_of_begins whole

theorem Number.ReadsAs.parse {n m : Number} (reads : n.ReadsAs m) : Json.parse n.text = .ok (.num m) := by
  obtain ⟨c, cs, shown, solid, read⟩ := reads [] (by simp [EndsNumber])
  rw [List.append_nil] at read
  rw [Json.parse, Number.text, shown, tokens_of_begins (.single solid read (Nat.zero_le _))]
  rfl

theorem Number.ReadsAs.reread {n m : Number} (reads : n.ReadsAs m) : n.reread = m := by
  rw [Number.reread, reads.parse]

/-! ### The document of the tokens -/

theorem nextItem_printed (first : Bool) (v : Json) (rest : List Token) :
    nextItem first ((if first then [] else [.comma]) ++ (printed v ++ rest)) =
      .ok (some (printed v ++ rest)) := by
  cases first <;> cases v <;> rfl

theorem insert_last {α : Type} {key : String} {members : Members α}
    (before : ∀ member ∈ members, member.1 < key) (value : α) :
    Members.insert key value members = members ++ [(key, value)] := by
  induction members with
  | nil => rfl
  | cons member rest ih =>
    obtain ⟨name, old⟩ := member
    have first : name < key := before (name, old) (by simp)
    have other : key ≠ name := fun same => String.lt_irrefl key (by simp [same] at first)
    have later : ¬ key < name := fun reversed => String.lt_irrefl key (String.lt_trans reversed first)
    rw [Members.insert, if_neg other, if_neg later,
      ih fun member present => before member (List.mem_cons_of_mem _ present)]
    rfl

theorem nextKey_printed (first : Bool) (name : String) (rest : List Token) :
    nextKey first ((if first then [] else [.comma]) ++ .str (.ok name) :: rest) =
      .ok (some (.str (.ok name) :: rest)) := by
  cases first <;> rfl

theorem ordered_append_cons {α : Type} {front back : Members α} {member : String × α}
    (ordered : Members.Ordered (front ++ member :: back)) : ∀ earlier ∈ front, earlier.1 < member.1 :=
  fun earlier present => (List.pairwise_append.mp ordered).2.2 earlier present member (by simp)

theorem length_printedItems (first : Bool) (items : List Json) :
    items.length ≤ (printedItems first items).length := by
  induction items generalizing first with
  | nil => simp
  | cons v items ih =>
    have here : 1 ≤ (printed v).length := by cases v <;> simp [printed]
    have there := ih false
    simp only [printedItems, List.length_append, List.length_cons]
    omega

theorem length_printedMembers (first : Bool) (members : List (String × Json)) :
    members.length ≤ (printedMembers first members).length := by
  induction members generalizing first with
  | nil => simp
  | cons member members ih =>
    have there := ih false
    simp only [printedMembers, List.length_append, List.length_cons]
    omega

mutual

theorem value_printed (v : Json) (formed : v.WellFormed) {depth : Nat} (shallow : v.depth ≤ depth)
    (rest : List Token) : value depth (printed v ++ rest) = .ok (v, rest) := by
  match v, depth with
  | .null, depth => cases depth <;> rfl
  | .bool _, depth => cases depth <;> rfl
  | .num _, depth => cases depth <;> rfl
  | .str _, depth => cases depth <;> rfl
  | .arr _, 0 | .obj _, 0 => simp [Json.depth] at shallow
  | .arr inner, depth + 1 =>
    have inside := items_printed true inner formed (by simpa [Json.depth] using shallow) rest
      ((printedItems true inner ++ .listClose :: rest).length + 1) (by
        have counted := length_printedItems true inner
        simp; omega)
    simp only [printed, List.cons_append, List.append_assoc, List.nil_append, value, items, inside]
    rfl
  | .obj inner, depth + 1 =>
    have inside := members_printed true inner formed.2 (by simpa [Json.depth] using shallow)
      [] formed.1 rest ((printedMembers true inner ++ .mapClose :: rest).length + 1) (by
        have counted := length_printedMembers true inner
        simp; omega)
    simp only [printed, List.cons_append, List.append_assoc, List.nil_append, value, members, inside]
    rfl

theorem items_printed (first : Bool) (inner : List Json) (formed : WellFormedItems inner) {depth : Nat}
    (shallow : depthItems inner ≤ depth) (rest : List Token) (fuel : Nat) (enough : inner.length < fuel) :
    itemsFrom (value depth) fuel first (printedItems first inner ++ .listClose :: rest) =
      .ok (inner, rest) := by
  match inner, fuel with
  | _, 0 => simp at enough
  | [], fuel + 1 => rfl
  | v :: inner, fuel + 1 =>
    have bounds : v.depth ≤ depth ∧ depthItems inner ≤ depth := Nat.max_le.mp shallow
    have here := value_printed v formed.1 bounds.1 (printedItems false inner ++ .listClose :: rest)
    have there := items_printed false inner formed.2 bounds.2 rest fuel (by simpa using enough)
    simp only [printedItems, List.append_assoc, itemsFrom, nextItem_printed, here, there, bind, Except.bind]
    rfl

theorem members_printed (first : Bool) (inner : List (String × Json)) (formed : WellFormedMembers inner)
    {depth : Nat} (shallow : depthMembers inner ≤ depth) (read : Members Json)
    (ordered : Members.Ordered (read ++ inner)) (rest : List Token) (fuel : Nat)
    (enough : inner.length < fuel) :
    membersFrom (bindMember (value depth)) fuel first read
        (printedMembers first inner ++ .mapClose :: rest) = .ok (read ++ inner, rest) := by
  match inner, fuel with
  | _, 0 => simp at enough
  | [], fuel + 1 => simp [printedMembers, membersFrom, nextKey, bind, Except.bind, pure, Except.pure]
  | (k, v) :: inner, fuel + 1 =>
    have bounds : v.depth ≤ depth ∧ depthMembers inner ≤ depth := Nat.max_le.mp shallow
    have here := value_printed v formed.1 bounds.1 (printedMembers false inner ++ .mapClose :: rest)
    have placed : Members.insert k v read = read ++ [(k, v)] := insert_last (ordered_append_cons ordered) v
    have there := members_printed false inner formed.2 bounds.2 (read ++ [(k, v)])
      (by simpa using ordered) rest fuel (by simpa using enough)
    rw [List.append_assoc, List.singleton_append] at there
    simp only [printedMembers, List.append_assoc, List.cons_append, membersFrom, nextKey_printed, memberName,
      Except.map, bindMember, colon, here, placed, there, bind, Except.bind, pure, Except.pure]

end

/-! ### Documents with their numbers read again -/

theorem rereadItems_eq (items : List Json) : rereadItems items = items.map reread := by
  induction items with
  | nil => rfl
  | cons v rest ih => rw [rereadItems, ih, List.map_cons]

theorem rereadMembers_eq (members : List (String × Json)) :
    rereadMembers members = members.map fun member => (member.1, member.2.reread) := by
  induction members with
  | nil => rfl
  | cons member rest ih => rw [rereadMembers, ih, List.map_cons]

theorem Members.Ordered.reread {members : Members Json} (ordered : members.Ordered) :
    Members.Ordered (rereadMembers members) := by
  rw [rereadMembers_eq]
  exact List.pairwise_map.mpr ordered

mutual

@[simp] theorem depth_reread (v : Json) : v.reread.depth = v.depth := by
  match v with
  | .null | .bool _ | .num _ | .str _ => rfl
  | .arr items => exact congrArg (· + 1) (depthItems_reread items)
  | .obj members => exact congrArg (· + 1) (depthMembers_reread members)

theorem depthItems_reread (items : List Json) : depthItems (rereadItems items) = depthItems items := by
  match items with
  | [] => rfl
  | v :: rest => rw [rereadItems, depthItems, depthItems, depth_reread v, depthItems_reread rest]

theorem depthMembers_reread (members : List (String × Json)) :
    depthMembers (rereadMembers members) = depthMembers members := by
  match members with
  | [] => rfl
  | (_, v) :: rest => rw [rereadMembers, depthMembers, depthMembers, depth_reread v, depthMembers_reread rest]

end

mutual

theorem WellFormed.reread {v : Json} (formed : v.WellFormed) : v.reread.WellFormed := by
  match v with
  | .null | .bool _ | .num _ | .str _ => exact trivial
  | .arr items => exact WellFormedItems.reread formed
  | .obj members => exact ⟨Members.Ordered.reread formed.1, WellFormedMembers.reread formed.2⟩

theorem WellFormedItems.reread {items : List Json} (formed : WellFormedItems items) :
    WellFormedItems (rereadItems items) := by
  match items with
  | [] => exact trivial
  | _ :: _ => exact ⟨formed.1.reread, WellFormedItems.reread formed.2⟩

theorem WellFormedMembers.reread {members : List (String × Json)} (formed : WellFormedMembers members) :
    WellFormedMembers (rereadMembers members) := by
  match members with
  | [] => exact trivial
  | _ :: _ => exact ⟨formed.1.reread, WellFormedMembers.reread formed.2⟩

end

/-- The compact text of a document is read as that document, with its numbers read again. -/
theorem parse_render (v : Json) (formed : v.WellFormed) (numbers : NumbersReadable v)
    (shallow : v.depth ≤ maxDepth) : parse v.render = .ok v.reread := by
  have shallow : v.reread.depth ≤ maxDepth := by rwa [depth_reread]
  have read := value_printed v.reread formed.reread shallow []
  rw [List.append_nil] at read
  rw [parse, tokens_render v numbers, read]
  rfl

end Relay.Json
