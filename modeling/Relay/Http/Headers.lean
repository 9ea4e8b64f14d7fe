import Relay.Http.Token
import Relay.Text.Utf8

/-!
# Header fields

Header fields in the order in which they were added. A name may have several values, whose order matters.
The order of different names matters only where a message brings its headers, as a log lists them then; it
is not looked at after `erase` and `insert`. Names are lower case.
-/

namespace Relay.Http

def isHeaderName (s : String) : Bool := isToken s && s.length ≤ maxNameLength

structure HeaderName where
  text : String
  valid : isHeaderName text = true
  lower : lowered text = text
  deriving Repr, DecidableEq

namespace HeaderName

/-- The header name that a text denotes, letters in either case. -/
def parse (s : String) : Option HeaderName :=
  if valid : isHeaderName s then some ⟨lowered s, by simpa [isHeaderName] using valid, by simp⟩ else none

@[ext] theorem ext {a b : HeaderName} (same : a.text = b.text) : a = b := by
  cases a
  cases b
  congr

theorem parse_eq_some {s : String} {name : HeaderName} : parse s = some name ↔ SameName name.text s := by
  rw [SameName, name.lower, parse]
  constructor
  · intro read
    split at read
    · obtain rfl := Option.some.inj read
      rfl
    · cases read
  · intro same
    have valid : isHeaderName s = true := by simpa [isHeaderName, same] using name.valid
    rw [dif_pos valid, Option.some.injEq]
    exact ext same.symm

def contentLength : HeaderName := ⟨"content-length", by decide, by decide⟩

def transferEncoding : HeaderName := ⟨"transfer-encoding", by decide, by decide⟩

def contentType : HeaderName := ⟨"content-type", by decide, by decide⟩

def correlationId : HeaderName := ⟨"x-correlation-id", by decide, by decide⟩

end HeaderName

abbrev HeaderValue := ByteArray

/-- A value may hold any byte except controls; the tab is allowed. -/
def isValueByte (b : UInt8) : Bool := (32 ≤ b && b != 127) || b == 9

def headerValue? (bytes : ByteArray) : Option HeaderValue :=
  if bytes.data.toList.all isValueByte then some bytes else none

/-- The text of a value that consists of visible ASCII characters, spaces and tabs. -/
def visibleText (value : HeaderValue) : Option String :=
  if value.data.toList.all fun b => (32 ≤ b && b < 127) || b == 9 then Text.ofBytes? value else none

structure Headers where
  entries : List (HeaderName × HeaderValue)

namespace Headers

def empty : Headers := ⟨[]⟩

def values (headers : Headers) (name : HeaderName) : List HeaderValue :=
  (headers.entries.filter (·.1 = name)).map (·.2)

def contains (headers : Headers) (name : HeaderName) : Bool :=
  headers.entries.any (·.1 = name)

/-- Whether there is a field that a text names. A text that is no header name names none. -/
def has (headers : Headers) (name : String) : Bool :=
  match HeaderName.parse name with
  | some header => headers.contains header
  | none => false

theorem has_iff {headers : Headers} {name : String} :
    headers.has name = true ↔ ∃ field ∈ headers.entries, SameName field.1.text name := by
  simp only [← HeaderName.parse_eq_some, has, contains]
  cases HeaderName.parse name with
  | none => simp
  | some header => simp [eq_comm (a := header)]

def append (headers : Headers) (name : HeaderName) (value : HeaderValue) : Headers :=
  ⟨headers.entries ++ [(name, value)]⟩

def erase (headers : Headers) (name : HeaderName) : Headers :=
  ⟨headers.entries.filter (·.1 ≠ name)⟩

/-- Makes a value the only one of its name. -/
def insert (headers : Headers) (name : HeaderName) (value : HeaderValue) : Headers :=
  (headers.erase name).append name value

theorem contains_iff {headers : Headers} {name : HeaderName} :
    headers.contains name = true ↔ ∃ field ∈ headers.entries, field.1 = name := by
  simp [contains]

@[simp] theorem values_erase_self (headers : Headers) (name : HeaderName) :
    (headers.erase name).values name = [] := by
  simp [values, erase]

theorem values_erase_of_ne {name other : HeaderName} (different : other ≠ name) (headers : Headers) :
    (headers.erase name).values other = headers.values other := by
  simp only [values, erase, List.filter_filter]
  congr 1
  apply List.filter_congr
  intro field _
  by_cases found : field.1 = other <;> simp [found, different]

@[simp] theorem values_insert_self (headers : Headers) (name : HeaderName) (value : HeaderValue) :
    (headers.insert name value).values name = [value] := by
  simp [values, insert, append, erase]

theorem values_insert_of_ne {name other : HeaderName} (different : other ≠ name) (headers : Headers)
    (value : HeaderValue) : (headers.insert name value).values other = headers.values other := by
  have rest := values_erase_of_ne different headers
  simp only [values, insert, append, List.filter_append, List.map_append] at rest ⊢
  simp [rest, Ne.symm different]

theorem contains_insert (headers : Headers) (name other : HeaderName) (value : HeaderValue) :
    (headers.insert name value).contains other = true ↔ name = other ∨ headers.contains other = true := by
  by_cases same : name = other
  · simp [same, contains, insert, append]
  · simp only [contains_iff, insert, append, erase, List.mem_append, List.mem_filter,
      List.mem_singleton, same, false_or]
    constructor
    · rintro ⟨field, ⟨present, -⟩ | rfl, rfl⟩
      · exact ⟨field, present, rfl⟩
      · exact absurd rfl same
    · rintro ⟨field, present, rfl⟩
      exact ⟨field, .inl ⟨present, by simpa using Ne.symm same⟩, rfl⟩

/-- The names, each where it stands first. -/
def names (headers : Headers) : List HeaderName :=
  (headers.entries.map (·.1)).eraseDups

theorem mem_names {headers : Headers} {name : HeaderName} :
    name ∈ headers.names ↔ headers.contains name = true := by
  simp [names, contains_iff]

end Headers
end Relay.Http
