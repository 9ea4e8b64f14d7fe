import Mathlib.Data.String.Basic
import Relay.Proofs.Json.Yields
import Relay.Settings.Environment

/-!
# Variables of settings

Each setting has one variable, and no other name stands for it: `setting?_eq_some_iff`. The value of the variable is
put in the place of the setting alone: `Setting.Puts`.
-/

namespace Relay

/-! ### Values of settings -/

inductive SettingValue where
  | flag (b : Bool)
  | count (n : Nat)
  | text (s : String)
  | format (f : LogFormat)
  deriving Repr, DecidableEq

namespace Setting

def get (setting : Setting) (s : Settings) : SettingValue :=
  match setting with
  | trustIncomingIds => .flag s.gateway.trustIncomingIds
  | logBodies => .flag s.gateway.logBodies
  | maxBodyBytes => .count s.gateway.maxBodyBytes
  | level => .text s.logging.level
  | format => .format s.logging.format
  | ansi => .flag s.logging.ansi
  | location => .flag s.logging.location

/-- What a text sets a setting to, or what it should have held. -/
def read (setting : Setting) (value : String) : Except WantedValue SettingValue :=
  match setting with
  | trustIncomingIds | logBodies | ansi | location => (boolean value).map .flag
  | maxBodyBytes => (integer value).map .count
  | level => .ok (.text value)
  | format => (logFormat value).map .format

/-- The setting has the value afterwards, and all else is as before. -/
structure Puts (setting : Setting) (x : SettingValue) (before after : Settings) : Prop where
  value : setting.get after = x
  others : ∀ other, other ≠ setting → other.get after = other.get before
  routes : after.routes = before.routes

theorem apply_of_read_ok {setting : Setting} {value : String} {x : SettingValue}
    (read : setting.read value = .ok x) (s : Settings) : ∃ t, setting.apply value s = .ok t ∧ setting.Puts x s t := by
  cases setting with
  | trustIncomingIds | logBodies | maxBodyBytes | format | ansi | location =>
    obtain ⟨y, accepted, rfl⟩ := map_ok read
    refine ⟨_, congrArg (Except.map _) accepted, rfl, fun other different => ?_, rfl⟩
    cases other <;> first | rfl | exact absurd rfl different
  | level =>
    cases read
    refine ⟨_, rfl, rfl, fun other different => ?_, rfl⟩
    cases other <;> first | rfl | exact absurd rfl different

theorem apply_of_read_error {setting : Setting} {value : String} {wanted : WantedValue}
    (read : setting.read value = .error wanted) (s : Settings) : setting.apply value s = .error wanted := by
  cases setting with
  | trustIncomingIds | logBodies | maxBodyBytes | format | ansi | location =>
    rw [apply, map_error read]
    rfl
  | level => cases read

end Setting

/-- The settings and the routes are all there is. -/
theorem Settings.ext_get {s t : Settings} (values : ∀ setting : Setting, setting.get s = setting.get t)
    (routes : s.routes = t.routes) : s = t := by
  obtain ⟨⟨trust, log, bytes⟩, ⟨level, format, ansi, location⟩, routes⟩ := s
  obtain ⟨⟨trust', log', bytes'⟩, ⟨level', format', ansi', location'⟩, routes'⟩ := t
  have gateway := And.intro (values .trustIncomingIds) (And.intro (values .logBodies) (values .maxBodyBytes))
  have logging := And.intro (values .level) (And.intro (values .format) (And.intro (values .ansi) (values .location)))
  simp only [Setting.get, SettingValue.flag.injEq, SettingValue.count.injEq, SettingValue.text.injEq,
    SettingValue.format.injEq] at gateway logging routes
  simp only [gateway, logging, routes]

/-! ### Names of variables -/

namespace Setting

/-- The end of the name of a setting's variable. -/
def suffix (setting : Setting) : String := setting.place.1 ++ "__" ++ setting.place.2

def variableName (start : String) (setting : Setting) : String := start ++ "__" ++ setting.suffix

theorem ofParts?_eq_some_iff {names : List String} {setting : Setting} :
    ofParts? names = some setting ↔ names = [setting.place.1, setting.place.2] := by
  have only : ∀ part key, all.find? (fun setting => setting.place = (part, key)) = some setting ↔
      (part, key) = setting.place := by
    intro part key
    constructor
    · intro found
      have same := List.find?_some found
      exact (of_decide_eq_true same).symm
    · intro same
      rw [same]
      cases setting <;> decide
  match names with
  | [] | [_] | _ :: _ :: _ :: _ => simp [ofParts?]
  | [part, key] =>
    rw [ofParts?, only, Prod.ext_iff]
    simp

end Setting

namespace Environment

theorem dropStart_eq_some_iff {start cs rest : List Char} : dropStart start cs = some rest ↔ cs = start ++ rest := by
  induction start generalizing cs with
  | nil => simp [dropStart]
  | cons p ps ih =>
    cases cs with
    | nil => simp [dropStart]
    | cons c cs =>
      rw [dropStart, List.cons_append, List.cons.injEq]
      by_cases same : p = c
      · rw [if_pos same, ih, eq_comm (a := c)]
        exact (and_iff_right same).symm
      · rw [if_neg same]
        exact ⟨nofun, fun ⟨other, _⟩ => absurd other.symm same⟩

theorem ending_eq_some_iff {start name rest : String} :
    ending start name = some rest ↔ name = start ++ "__" ++ rest := by
  have underscores : "__".toList = ['_', '_'] := rfl
  rw [ending, Option.map_eq_some_iff, ← String.toList_inj, String.toList_append, String.toList_append, underscores]
  simp only [dropStart_eq_some_iff]
  constructor
  · rintro ⟨cs, same, rfl⟩
    rw [same, String.toList_ofList]
  · intro same
    exact ⟨rest.toList, same, String.ofList_toList⟩

theorem parts_ne_nil (cs : List Char) : parts cs ≠ [] := by
  fun_cases parts cs <;> exact List.cons_ne_nil _ _

theorem intercalate_head (sep : List Char) (c : Char) (first : List Char) (rest : List (List Char)) :
    sep.intercalate ((c :: first) :: rest) = c :: sep.intercalate (first :: rest) := by
  cases rest with
  | nil => rw [List.intercalate_singleton, List.intercalate_singleton]
  | cons second rest => simp only [List.intercalate_cons_cons, List.cons_append]

/-- Nothing is lost of a text that is split. -/
theorem intercalate_parts (cs : List Char) : ['_', '_'].intercalate (parts cs) = cs := by
  fun_induction parts cs with
  | case1 => rfl
  | case2 c => exact List.intercalate_singleton
  | case3 c d cs underscores ih =>
    obtain ⟨rfl, rfl⟩ := underscores
    rw [List.intercalate_cons_of_ne_nil (parts_ne_nil cs), ih]
    rfl
  | case4 c d cs other none ih => exact absurd none (parts_ne_nil _)
  | case5 c d cs other first rest same ih => rw [intercalate_head, ← same, ih]

/-- A name stands for a setting just when it is that of its variable. -/
theorem setting?_eq_some_iff {start name : String} {setting : Setting} :
    setting? start name = some setting ↔ name = setting.variableName start := by
  rw [setting?, Option.bind_eq_some_iff]
  simp only [ending_eq_some_iff, Setting.ofParts?_eq_some_iff]
  constructor
  · rintro ⟨rest, rfl, split⟩
    refine congrArg (start ++ "__" ++ ·) (String.toList_inj.mp ?_)
    obtain ⟨part, key, split, first, second⟩ : ∃ part key, parts rest.toList = [part, key] ∧
        String.ofList part = setting.place.1 ∧ String.ofList key = setting.place.2 := by
      obtain ⟨part, keys, split, first, split'⟩ := List.map_eq_cons_iff.mp split
      obtain ⟨key, ends, rfl, second, none⟩ := List.map_eq_cons_iff.mp split'
      rw [List.map_eq_nil_iff.mp none] at split
      exact ⟨part, key, split, first, second⟩
    have whole := intercalate_parts rest.toList
    rw [split, List.intercalate_cons_cons, List.intercalate_singleton] at whole
    rw [← whole, Setting.suffix, ← first, ← second]
    simp
  · rintro rfl
    exact ⟨setting.suffix, rfl, by cases setting <;> decide⟩

theorem variableName_injective {start : String} {setting other : Setting}
    (same : setting.variableName start = other.variableName start) : setting = other := by
  have found := setting?_eq_some_iff.mpr same
  rw [setting?_eq_some_iff.mpr rfl] at found
  exact Option.some.inj found

/-! ### The order of names -/

/-- The bytes of a text in UTF-8. -/
def bytes (s : String) : List UInt8 := s.toUTF8.data.toList

theorem bytes_append (s t : String) : bytes (s ++ t) = bytes s ++ bytes t := by
  simp [bytes, String.toByteArray_append]

/-- Names of variables that differ are in the order of their bytes. They differ behind the prefix only. -/
theorem bytes_variableName_lt {start : String} {setting other : Setting}
    (before : setting.variableName start < other.variableName start) :
    bytes (setting.variableName start) < bytes (other.variableName start) := by
  have ends : setting.suffix < other.suffix ∨ other.suffix < setting.suffix ∨ setting = other := by
    cases setting <;> cases other <;> decide
  have inBytes : ∀ a b : Setting, a.suffix < b.suffix → bytes a.suffix < bytes b.suffix := by
    intro a b
    cases a <;> cases b <;> decide
  have inNames : ∀ a b : Setting, a.suffix < b.suffix → a.variableName start < b.variableName start := by
    intro a b less
    simp only [Setting.variableName, String.lt_iff_toList_lt, String.toList_append (s := start ++ "__")]
    exact List.append_left_lt (String.lt_iff_toList_lt.mp less)
  rcases ends with less | greater | rfl
  · rw [Setting.variableName, Setting.variableName, bytes_append, bytes_append]
    exact List.append_left_lt (inBytes setting other less)
  · exact absurd (inNames other setting greater) (String.lt_asymm before)
  · exact absurd before (String.lt_irrefl _)

end Environment
end Relay
