import Relay.Proofs.Json.NamingOrder
import Relay.Proofs.Json.PathGrammar

/-!
# Locating what a path names

The indices of a path that was read are 64-bit numbers, and so is what they come to when they count from the end
of a list. `locate_lists_named_once` puts together what is known of the locations of a path: they are those that
it names, each of them once, and there is a node at each.
-/

namespace Relay.Json

/-! ### Indices that were read -/

/-- Every index in the segment is a 64-bit number. -/
def Segment.IndicesFit (segment : Segment) : Prop :=
  ∀ k, Selector.index k ∈ segment.selectors → Path.indexFits k = true

theorem toInt_add_of_negative {k : Int} (fits : Path.indexFits k = true) (negative : k < 0) {length : Nat}
    (short : length < 2 ^ 63) : (Int64.ofNat length + Int64.ofInt k).toInt = length + k := by
  have bounds : -9223372036854775808 ≤ k ∧ k ≤ 9223372036854775807 := by
    simpa [Path.indexFits] using fits
  have count : (Int64.ofNat length).toInt = length := Int64.toInt_ofNat_of_lt short
  have index : (Int64.ofInt k).toInt = k := Int64.toInt_ofInt_of_le (by omega) (by omega)
  rw [Int64.toInt_add, count, index]
  exact Int.bmod_eq_of_le (by omega) (by omega)

theorem indicesFit_member (recursive : Bool) (form : MemberForm) :
    Segment.IndicesFit ⟨recursive, [form.selector]⟩ := by
  intro k listed
  cases form <;> cases List.mem_singleton.mp listed

theorem fits_of_selectorForm {form : SelectorForm} {k : Int} (same : form.selector = .index k) :
    Path.indexFits k = true := by
  cases form with
  | index negative digits isDigits fits =>
    cases same
    exact fits
  | _ => cases same

theorem indicesFit_list (recursive : Bool) (list : ListForm) : Segment.IndicesFit ⟨recursive, list.selectors⟩ := by
  intro k listed
  induction list with
  | last item => exact fits_of_selectorForm (List.mem_singleton.mp listed).symm
  | more item rest ih =>
    rcases List.mem_cons.mp listed with here | later
    · exact fits_of_selectorForm here.symm
    · exact ih later

theorem indicesFit_segment (form : SegmentForm) : form.segment.IndicesFit := by
  cases form with
  | member m => exact indicesFit_member false m
  | memberBelow m => exact indicesFit_member true m
  | listBelow l => exact indicesFit_list true l
  | list l => exact indicesFit_list false l

theorem indicesFit_path (form : PathForm) : ∀ segment ∈ form.segments, segment.IndicesFit := by
  have each (forms : List SegmentForm) : ∀ segment ∈ forms.map SegmentForm.segment, segment.IndicesFit :=
    List.forall_mem_map.mpr fun form _ => indicesFit_segment form
  cases form with
  | root forms => exact each forms
  | bare first _ forms => exact List.forall_mem_cons.mpr ⟨indicesFit_member false first, each forms⟩
  | relative first forms => exact each (first :: forms)

theorem Path.fits_of_parse {source : String} {path : Path} (read : parse source = .ok path) :
    ∀ segment ∈ path.segments, segment.IndicesFit := by
  obtain ⟨-, form, -, same⟩ := parse_eq_ok_iff.mp read
  exact same ▸ indicesFit_path form

/-! ### Locations -/

/-- The members that a path names. -/
def Path.members (path : Path) (root : Json) : List Location := (path.locate root).filter Location.isMember

theorem Path.mem_members {path : Path} {root : Json} {here : Location} :
    here ∈ path.members root ↔ here ∈ path.locate root ∧ here.isMember = true := List.mem_filter

theorem nodup_locate (path : Path) {root : Json} (formed : root.WellFormed) : (path.locate root).Nodup := by
  refine (pairwise_locate path formed).imp fun apart same => apart ?_
  rw [same]

/-- The locations of a path are those that it names, each listed once and with a node there; the root sign alone
names the root. Where an index counts from the end of a list, the sum is within 64 bits. -/
theorem locate_lists_named_once (path : Path) {root : Json} (formed : root.WellFormed) :
    (∀ location, location ∈ path.locate root ↔ Names path.segments root location) ∧
      (path.locate root).Nodup ∧
      (∀ location ∈ path.locate root, ∃ node, root.get? location = some node) ∧
      (∃ whole, Path.parse "$" = .ok whole ∧ whole.locate root = [[]]) ∧
      ∀ source, Path.parse source = .ok path → ∀ segment ∈ path.segments, ∀ k, .index k ∈ segment.selectors →
        Path.indexFits k = true ∧
          (k < 0 → ∀ length < 2 ^ 63, (Int64.ofNat length + Int64.ofInt k).toInt = length + k) := by
  refine ⟨fun location => mem_locate formed, nodup_locate path formed, ?_, ⟨⟨"$", []⟩, rfl, rfl⟩, ?_⟩
  · intro location listed
    exact ((mem_locate formed).mp listed).exists_get?
  · intro source read segment present k listed
    have fits : Path.indexFits k = true := Path.fits_of_parse read segment present k listed
    exact ⟨fits, fun negative length short => toInt_add_of_negative fits negative short⟩

/-- The inner element is met below the outer `a` and below the inner one, and is listed once. -/
theorem inner_element_is_located_once :
    let root : Json := .obj [("a", .arr [.obj [("a", .arr [.bool true])]])]
    let source := "$..a..[-9223372036854775808,-1]"
    let inner := [.key "a", .index 0, .key "a", .index 0]
    ∃ path, Path.parse source = .ok path ∧ inner ∈ path.locate root ∧ (path.locate root).Nodup ∧
      root.get? inner = some (.bool true) ∧
      (Int64.ofNat 1 + Int64.ofInt (-9223372036854775808)).toInt = 1 + -9223372036854775808 := by
  intro root source inner
  let counted : Segment := ⟨true, [.index (-9223372036854775808), .index (-1)]⟩
  let path : Path := ⟨source, [⟨true, [.name "a"]⟩, counted]⟩
  have formed : root.WellFormed := by
    simp [root, WellFormed, WellFormedMembers, WellFormedItems, Members.Ordered]
  have read : Path.parse source = .ok path := by
    simp only [source, path, counted]
    rfl
  obtain ⟨named, once, -, -, fits⟩ := locate_lists_named_once path formed
  have outer : Segment.Leads ⟨true, [.name "a"]⟩ root [.key "a"] :=
    ⟨[], .key "a", root, rfl, fun plain => Bool.noConfusion plain, rfl, .name "a", List.mem_singleton_self _,
      .name rfl⟩
  have last : counted.Leads (.arr [.obj [("a", .arr [.bool true])]]) [.index 0, .key "a", .index 0] :=
    ⟨[.index 0, .key "a"], .index 0, .arr [.bool true], rfl, fun plain => Bool.noConfusion plain, rfl, .index (-1),
      List.mem_cons_of_mem _ (List.mem_singleton_self _), .index Nat.one_pos (.inr rfl)⟩
  have sum := fits source read counted (List.mem_cons_of_mem _ (List.mem_singleton_self _)) _ List.mem_cons_self
  exact ⟨path, read, (named _).mpr (.cons outer rfl (.cons last rfl .nil)), once, rfl,
    sum.2 (by decide) 1 (by decide)⟩

end Relay.Json
