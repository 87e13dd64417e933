import SchemaPlan.Json.Scalar

namespace SchemaPlan.Json

open Stop

/-- The name of the field that embeds a value: an object that begins with it holds nothing else,
and stands for the value that the field's string spells. -/
def embeddingName : String := "$serde_json::private::RawValue"

namespace Reader

/-- How deep arrays and objects may lie within one another, afresh in an embedded text. -/
def maxDepth : Nat := 127

def readName (s : List Char) : Except Stop (Spelled s) := do
  let ⟨name, r, _⟩ ← readString s
  match h : skip r with
  | [] => before .endOfObject []
  | c :: cs =>
    have := length_lt_of_skip h
    if c = ':' then pure ⟨name, cs, by omega⟩ else after .expectedColon (c :: cs)

def readEmbeddingEnd (s : List Char) : Except Stop (Rest s) :=
  match h : skip s with
  | [] => before .endOfObject []
  | c :: cs =>
    if c = '\x7d' then pure ⟨cs, length_lt_of_skip h⟩
    else after (if c = ',' then .trailingComma else .trailingCharacters) (c :: cs)

/-- Refuses a value that cannot embed another one as it is no string. Of an array and an object
only the first character is read. -/
def refuseEmbedding (c : Char) (cs : List Char) : Except Stop α :=
  if c = '[' then before (.notEmbedded .sequence) (c :: cs)
  else if c = '\x7b' then before (.notEmbedded .map) (c :: cs)
  else do
    let (v, ⟨r, _⟩) ← readScalar c cs
    before (.notEmbedded (.ofJson v)) r

def readEnd (s : List Char) : Except Stop Unit :=
  match skip s with
  | [] => pure ()
  | c :: cs => after .trailingCharacters (c :: cs)

mutual

/-- One value, in which at most `depth` arrays and objects lie within one another. -/
def readValue (depth : Nat) (s : List Char) : Step Json s :=
  match h : skip s with
  | [] => before .endOfValue []
  | c :: cs => do
    have hc := length_lt_of_skip h
    if c = '[' then
      if depth = 0 then after .tooDeep (c :: cs)
      else
        match h₂ : skip cs with
        | [] => before .endOfList []
        | d :: ds =>
          have hd := length_lt_of_skip h₂
          if d = ']' then pure (.array [], ⟨ds, shorter_trans hd hc⟩)
          else
            let (items, ⟨r, hr⟩) ← readItems (depth - 1) cs
            pure (.array items, ⟨r, shorter_trans hr hc⟩)
    else if c = '\x7b' then
      if depth = 0 then after .tooDeep (c :: cs)
      else
        match h₂ : skip cs with
        | [] => before .endOfObject []
        | d :: ds =>
          have hd := shorter_trans (length_lt_of_skip h₂) hc
          if d = '\x7d' then pure (.object [], ⟨ds, hd⟩)
          else if d = '\x22' then
            let ⟨name, t, ht⟩ ← readName ds
            if String.ofList name = embeddingName then
              let (v, ⟨r, hr⟩) ← readEmbedded t
              pure (v, ⟨r, shorter_of_name hr ht hd⟩)
            else
              let (fields, ⟨r, hr⟩) ← readFields (depth - 1) [] (String.ofList name) t
              pure (.object fields, ⟨r, shorter_of_name hr ht hd⟩)
          else after .keyNotString (d :: ds)
    else
      let (v, ⟨r, hr⟩) ← readScalar c cs
      pure (v, ⟨r, shorter_of_skip hr h⟩)
termination_by 2 * s.length
decreasing_by all_goals omega

def readItems (depth : Nat) (s : List Char) : Step (List Json) s := do
  let (v, ⟨r, _⟩) ← readValue depth s
  match h : skip r with
  | [] => before .endOfList []
  | c :: cs =>
    have hc := length_lt_of_skip h
    if c = ',' then
      if (skip cs).head? = some ']' then after .trailingComma (skip cs)
      else
        let (vs, ⟨t, _⟩) ← readItems depth cs
        pure (v :: vs, ⟨t, by omega⟩)
    else if c = ']' then pure ([v], ⟨cs, by omega⟩)
    else after .expectedListEnd (c :: cs)
termination_by 2 * s.length + 1
decreasing_by all_goals omega

/-- The value of a field, more fields with commas before them, and the closing brace. Of two
fields of one name the later stays. -/
def readFields (depth : Nat) (seen : List (String × Json)) (name : String) (s : List Char) :
    Step (List (String × Json)) s := do
  let (v, ⟨r, _⟩) ← readValue depth s
  match h : skip r with
  | [] => before .endOfObject []
  | c :: cs =>
    have hc := length_lt_of_skip h
    let fields := insert name v seen
    if c = ',' then
      match h₂ : skip cs with
      | [] => before .endOfValue []
      | d :: ds =>
        have hd := length_lt_of_skip h₂
        if d = '\x22' then
          let ⟨next, t, _⟩ ← readName ds
          let (all, ⟨u, _⟩) ← readFields depth fields (String.ofList next) t
          pure (all, ⟨u, by omega⟩)
        else after (if d = '\x7d' then .trailingComma else .keyNotString) (d :: ds)
    else if c = '\x7d' then pure (fields, ⟨cs, by omega⟩)
    else after .expectedObjectEnd (c :: cs)
termination_by 2 * s.length + 1
decreasing_by all_goals omega

def readEmbedded (s : List Char) : Step Json s :=
  match h : skip s with
  | [] => before .endOfValue []
  | c :: cs => do
    have hc := length_lt_of_skip h
    if c = '\x22' then
      let ⟨text, r, _⟩ ← readString cs
      let v ← (readText text).mapError fun stop => .embedded (stop.error text)
      let ⟨t, _⟩ ← readEmbeddingEnd r
      pure (v, ⟨t, by omega⟩)
    else refuseEmbedding c cs
termination_by 2 * s.length
decreasing_by all_goals omega

def readText (s : List Char) : Except Stop Json := do
  let (v, ⟨r, _⟩) ← readValue maxDepth s
  readEnd r
  pure v
termination_by 2 * s.length + 1
decreasing_by all_goals omega

end

end Reader

def parse (text : String) : Except ReadError Json :=
  (Reader.readText text.toList).mapError (·.error text.toList)

end SchemaPlan.Json
