/-
The tokens of a JSON text.

* `JsonToken`: a punctuation mark, a word, a numeral or a text. The last
  token of a list may be broken: it has a fault that shows when its value is
  wanted, and one that shows when it is only passed over.
* `jsonTokens`: the tokens of a text, up to the first broken one.
* `skipValue`: passes over one value.
* `length_skipValue`: what is left behind a value is shorter.

Assumed of `serde_json` 1: it reads the grammar of JSON from left to right without going
back, its four blanks and its lower-case words; a text whose end is missing is told apart
from one that breaks the grammar; and a value that is passed over is checked by the
grammar, but its numbers and escapes are not given a value.
-/
import RowFilter.Json.Numeral

namespace RowFilter

/-- A token of a JSON text. -/
inductive JsonToken where
  /-- A bracket, a brace, a colon or a comma. -/
  | mark (c : Char)
  | null
  | bool (b : Bool)
  | numeral (a : Numeral)
  | text (units : List TextUnit)
  /-- The start of a text that has a fault. -/
  | brokenText (wanted passed : JsonFault)
  /-- The start of something else that has a fault. -/
  | broken (wanted passed : JsonFault)
deriving DecidableEq, Repr

/-- The blanks of JSON. -/
def isJsonBlank (c : Char) : Bool :=
  c = ' ' || c = '\n' || c = '\t' || c = '\r'

/-- The punctuation marks of JSON. -/
def isJsonMark (c : Char) : Bool :=
  ['\x7b', '\x7d', '[', ']', ':', ','].contains c

/-- Reads the rest of a word. -/
def readWord : List Char → List Char → Except JsonFault (List Char)
  | [], cs => .ok cs
  | _ :: _, [] => .error .cutOff
  | w :: ws, c :: cs => if c = w then readWord ws cs else .error .malformed

/-- What is left behind a word is no longer. -/
theorem length_readWord {ws cs rest : List Char}
    (h : readWord ws cs = .ok rest) : rest.length ≤ cs.length := by
  fun_induction readWord ws cs with
  | case1 cs => exact Nat.le_of_eq (congrArg List.length (Except.ok.inj h)).symm
  | case2 => cases h
  | case3 w ws cs ih => exact Nat.le_succ_of_le (ih h)
  | case4 => cases h

/-- The words of JSON: the first letter, the others and the token. -/
def wordAt? : Char → Option (List Char × JsonToken)
  | 'n' => some (['u', 'l', 'l'], .null)
  | 't' => some (['r', 'u', 'e'], .bool true)
  | 'f' => some (['a', 'l', 's', 'e'], .bool false)
  | _ => none

/-- The fault of a text that ends with the fault `f`, when its value is
wanted: an impossible escape before counts first. -/
def wantedFault (units : List TextUnit) (f : JsonFault) : JsonFault :=
  match decodeUnits f units with
  | .error g => g
  | .ok _ => f

/-- The tokens of a JSON text, up to the first broken one. -/
def jsonTokens (s : List Char) : List JsonToken :=
  match s with
  | [] => []
  | c :: cs =>
    if isJsonBlank c then jsonTokens cs
    else if isJsonMark c then .mark c :: jsonTokens cs
    else if c = '"' then
      match _h : (readText cs).2 with
      | .ok rest => .text (readText cs).1 :: jsonTokens rest
      | .error f => [.brokenText (wantedFault (readText cs).1 f) f]
    else if c = '-' ∨ c.isDigit then
      match _h : readNumeralText (c :: cs) with
      | .ok (a, rest) => .numeral a :: jsonTokens rest
      | .error f => [.broken f .malformed]
    else
      match wordAt? c with
      | some (ws, t) =>
        match _h : readWord ws cs with
        | .ok rest => t :: jsonTokens rest
        | .error f => [.broken f f]
      | none => [.broken .malformed .malformed]
termination_by s.length
decreasing_by
  · simp
  · simp
  · have := length_readText _h
    simp only [List.length_cons]
    omega
  · exact length_readNumeralText _h
  · have := length_readWord _h
    simp only [List.length_cons]
    omega

/-! ### Passing over values -/

/-- A container that is not closed yet. -/
inductive JsonContainer where
  | array
  | object
deriving DecidableEq, Repr

/-- What has to come next while a value is passed over. Open containers are
kept innermost first. -/
inductive SkipState where
  /-- A value. -/
  | value (stack : List JsonContainer)
  /-- The first item or member of a container, or its end. -/
  | first (inner : JsonContainer) (stack : List JsonContainer)
  /-- The name of a member. -/
  | name (stack : List JsonContainer)
  /-- The colon behind a name. -/
  | colon (stack : List JsonContainer)
  /-- A comma or the end of a container. -/
  | next (inner : JsonContainer) (stack : List JsonContainer)
deriving DecidableEq, Repr

namespace SkipState

/-- The mark that closes a container. -/
def closing : JsonContainer → Char
  | .array => ']'
  | .object => '\x7d'

/-- A value has ended: the innermost container goes on, if there is one. -/
def ended : List JsonContainer → Option SkipState
  | [] => none
  | c :: stack => some (.next c stack)

/-- A token where a value has to come. -/
def valueStep (stack : List JsonContainer) :
    JsonToken → Except JsonFault (Option SkipState)
  | .null | .bool _ | .numeral _ | .text _ => .ok (ended stack)
  | .mark '[' => .ok (some (.first .array stack))
  | .mark '\x7b' => .ok (some (.first .object stack))
  | .mark _ => .error .malformed
  | .brokenText _ f | .broken _ f => .error f

/-- A token where a name has to come. -/
def nameStep (stack : List JsonContainer) :
    JsonToken → Except JsonFault (Option SkipState)
  | .text _ => .ok (some (.colon stack))
  | .brokenText _ f => .error f
  | _ => .error .malformed

/-- A token where an item or a member has to come. -/
def elementStep (inner : JsonContainer) (stack : List JsonContainer)
    (t : JsonToken) : Except JsonFault (Option SkipState) :=
  match inner with
  | .array => valueStep (.array :: stack) t
  | .object => nameStep stack t

/-- The effect of one token; nothing has to come when the value ends. -/
def step (s : SkipState) (t : JsonToken) :
    Except JsonFault (Option SkipState) :=
  match s with
  | .value stack => valueStep stack t
  | .first inner stack =>
    if t = .mark (closing inner) then .ok (ended stack)
    else elementStep inner stack t
  | .name stack => nameStep stack t
  | .colon stack =>
    if t = .mark ':' then .ok (some (.value (.object :: stack)))
    else .error .malformed
  | .next inner stack =>
    if t = .mark (closing inner) then .ok (ended stack)
    else if t = .mark ',' then
      .ok (some (match inner with
        | .array => .value (.array :: stack)
        | .object => .name stack))
    else .error .malformed

end SkipState

/-- Passes over the rest of a value. -/
def skipFrom (s : SkipState) : List JsonToken → Except JsonFault (List JsonToken)
  | [] => .error .cutOff
  | t :: ts =>
    match s.step t with
    | .error f => .error f
    | .ok none => .ok ts
    | .ok (some s') => skipFrom s' ts

/-- Passes over one value. -/
def skipValue (ts : List JsonToken) : Except JsonFault (List JsonToken) :=
  skipFrom (.value []) ts

/-- What is left behind the rest of a value is shorter. -/
theorem length_skipFrom {s : SkipState} {ts rest : List JsonToken}
    (h : skipFrom s ts = .ok rest) : rest.length < ts.length := by
  fun_induction skipFrom s ts with
  | case1 => cases h
  | case2 => cases h
  | case3 => obtain rfl := Except.ok.inj h; simp
  | case4 _ _ _ _ _ ih => exact Nat.lt_succ_of_lt (ih h)

/-- What is left behind a value is shorter. -/
theorem length_skipValue {ts rest : List JsonToken}
    (h : skipValue ts = .ok rest) : rest.length < ts.length :=
  length_skipFrom h

end RowFilter
