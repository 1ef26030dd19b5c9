/-
The text of scalars. A plain or quoted scalar may run over several lines: a
single line break becomes a space, and of several the first is dropped. In
a literal block every line break stays; in a folded one those between lines
that start at the indentation are folded in the same way.
-/
import CloudSession.Text.Hex
import CloudSession.Yaml.Cursor

namespace CloudSession.Yaml

/-- How a scalar is written. -/
inductive Style
  | plain
  | quoted
  | literal
  | folded
deriving DecidableEq, Repr

-- ===================================================================== gaps

/-- The blanks and line breaks between two words of a scalar. Blanks count
only when there is no break. -/
structure Gap where
  blanks : List Char
  breaks : List (List Char)

namespace Gap

def none : Gap := ⟨[], []⟩

/-- What a gap contributes to the text. -/
def text (g : Gap) : List Char :=
  match g.breaks with
  | [] => g.blanks
  | [['\n']] => [' ']
  | ['\n'] :: more => more.flatten
  | breaks => breaks.flatten

/-- Reads on a gap from here. With an indentation, no tab may stand before
it at the start of a line. -/
def read? (indent : Option Nat) : Nat → Gap → Cursor → Option (Gap × Cursor)
  | 0, _, _ => .none
  | fuel + 1, g, c =>
    match c.break?, c.char? with
    | some (b, next), _ => read? indent fuel { g with breaks := g.breaks ++ [b] } next
    | .none, some ch =>
      if !isBlank ch then some (g, c)
      else if ch == '\t' && !g.breaks.isEmpty && indent.any (c.column < ·) then .none
      else if g.breaks.isEmpty then
        read? indent fuel { g with blanks := g.blanks ++ [ch] } (c.skip 1)
      else read? indent fuel g (c.skip 1)
    | .none, .none => some (g, c)

end Gap

-- ==================================================================== plain

/-- The characters that end a plain scalar inside brackets. -/
def isFlowIndicator (c : Char) : Bool :=
  c == ',' || c == '[' || c == ']' || c == '{' || c == '}'

/-- A word of a plain scalar. It ends before a blank and before a colon that
a blank follows; inside brackets a colon must not stand before an indicator. -/
def plainWord? (inFlow : Bool) : List Char → Option (List Char)
  | [] => some []
  | c :: cs =>
    if isBlank c || isBreak c then some []
    else if inFlow && c == ':' && (cs.head?.any fun d => isFlowIndicator d || d == '?') then none
    else if (c == ':' && isBoundary cs) || (inFlow && isFlowIndicator c) then some []
    else (plainWord? inFlow cs).map (c :: ·)

/-- The rest of a plain scalar behind a gap: its text, whether it ends on
another line than its last word, and the place after it. -/
def plainFrom? (inFlow : Bool) (indent : Nat) :
    Nat → Gap → Cursor → Option (List Char × Bool × Cursor)
  | 0, _, _ => none
  | fuel + 1, gap, c =>
    if c.isAtDocumentMark || c.isAt (· == '#') then some ([], !gap.breaks.isEmpty, c)
    else
      match plainWord? inFlow c.rest with
      | none => none
      | some [] => some ([], !gap.breaks.isEmpty, c)
      | some word =>
        let after := c.skip word.length
        match Gap.read? (some indent) (after.rest.length + 1) .none after with
        | none => none
        | some (next, after) =>
          if after.rest.isEmpty || (!inFlow && after.column < indent) then
            some (gap.text ++ word, !next.breaks.isEmpty, after)
          else
            (plainFrom? inFlow indent fuel next after).map fun (text, crossed, after) =>
              (gap.text ++ word ++ text, crossed, after)

/-- A plain scalar. -/
def plain? (inFlow : Bool) (indent : Nat) (c : Cursor) : Option (List Char × Bool × Cursor) :=
  plainFrom? inFlow indent (c.rest.length + 1) .none c

-- =================================================================== quoted

/-- What stands behind a backslash: a character, or the number of digits of
a code point. -/
inductive Escape
  | char (c : Char)
  | code (digits : Nat)

def escape? : Char → Option Escape
  | '0' => some (.char (Char.ofNat 0))
  | 'a' => some (.char (Char.ofNat 7))
  | 'b' => some (.char (Char.ofNat 8))
  | 't' => some (.char '\t')
  | '\t' => some (.char '\t')
  | 'n' => some (.char '\n')
  | 'v' => some (.char (Char.ofNat 11))
  | 'f' => some (.char (Char.ofNat 12))
  | 'r' => some (.char '\r')
  | 'e' => some (.char (Char.ofNat 27))
  | ' ' => some (.char ' ')
  | '"' => some (.char '"')
  | '/' => some (.char '/')
  | '\\' => some (.char '\\')
  | 'N' => some (.char (Char.ofNat 0x85))
  | '_' => some (.char (Char.ofNat 0xA0))
  | 'L' => some (.char (Char.ofNat 0x2028))
  | 'P' => some (.char (Char.ofNat 0x2029))
  | 'x' => some (.code 2)
  | 'u' => some (.code 4)
  | 'U' => some (.code 8)
  | _ => none

/-- The character of a code point in hexadecimal digits. -/
def codePoint? (digits : List Char) : Option Char :=
  (digits.foldlM (fun n c => (Text.Hex.value? c).map (16 * n + ·)) 0).bind fun n =>
    if h : n.isValidChar then some (Char.ofNatAux n h) else none

/-- A word of a quoted scalar: its text, how many characters were read, and
whether it ends with an escaped line break, which is not counted. -/
def quotedWord? (quote : Char) : Nat → List Char → Option (List Char × Nat × Bool)
  | 0, _ => none
  | _ + 1, [] => some ([], 0, false)
  | fuel + 1, c :: cs =>
    let prepend (ch : Char) (width : Nat) :
        List Char × Nat × Bool → List Char × Nat × Bool :=
      fun (text, n, escaped) => (ch :: text, n + width, escaped)
    if isBlank c || isBreak c then some ([], 0, false)
    else if quote == '\'' && c == '\'' && cs.head? == some '\'' then
      (quotedWord? quote fuel cs.tail).map (prepend '\'' 2)
    else if c == quote then some ([], 0, false)
    else if quote == '"' && c == '\\' then
      match cs with
      | [] => none
      | e :: after =>
        if isBreak e then some ([], 1, true)
        else
          match escape? e with
          | none => none
          | some (.char ch) => (quotedWord? quote fuel after).map (prepend ch 2)
          | some (.code digits) =>
            if after.length < digits then none
            else
              match codePoint? (after.take digits) with
              | none => none
              | some ch =>
                (quotedWord? quote fuel (after.drop digits)).map (prepend ch (2 + digits))
    else (quotedWord? quote fuel cs).map (prepend c 1)

/-- The rest of a quoted scalar up to its closing quote, and the place after
that. -/
def quotedFrom? (quote : Char) : Nat → Cursor → Option (List Char × Cursor)
  | 0, _ => none
  | fuel + 1, c =>
    if c.isAtDocumentMark || c.rest.isEmpty then none
    else
      match quotedWord? quote (c.rest.length + 1) c.rest with
      | none => none
      | some (word, width, escapedBreak) =>
        let c := c.skip width
        let start : Option (Gap × Cursor) :=
          if escapedBreak then c.break?.map fun (_, next) => (⟨[], [[]]⟩, next)
          else some (.none, c)
        match start with
        | none => none
        | some (gap, c) =>
          if c.isAt (· == quote) then some (word, c.skip 1)
          else
            match Gap.read? none (c.rest.length + 1) gap c with
            | none => none
            | some (gap, c) =>
              (quotedFrom? quote fuel c).map fun (text, c) => (word ++ gap.text ++ text, c)

/-- A quoted scalar from its opening quote on. -/
def quoted? (quote : Char) (c : Cursor) : Option (List Char × Cursor) :=
  quotedFrom? quote (c.rest.length + 1) (c.skip 1)

-- =================================================================== blocks

/-- What happens to the line breaks at the end of a block. -/
inductive Chomping
  | strip
  | clip
  | keep
deriving DecidableEq

/-- The indicators behind the mark of a block: chomping and indentation, in
either order. -/
def blockHeader? (c : Cursor) : Option (Chomping × Option Nat × Cursor) :=
  let chomping (c : Cursor) : Chomping × Cursor :=
    match c.char? with
    | some '+' => (.keep, c.skip 1)
    | some '-' => (.strip, c.skip 1)
    | _ => (.clip, c)
  let width (c : Cursor) : Option (Option Nat × Cursor) :=
    match c.char? with
    | some d =>
      if d == '0' then none
      else if d.isDigit then some (some (d.toNat - 48), c.skip 1)
      else some (none, c)
    | none => some (none, c)
  match chomping c with
  | (.clip, _) => (width c).map fun (w, c) => ((chomping c).1, w, (chomping c).2)
  | (mode, c) => (width c).map fun (w, c) => (mode, w, c)

/-- The place after the blanks and the comment that end a line, if nothing
else does. -/
def lineEnd? (c : Cursor) : Option Cursor :=
  let c := c.skipWhile isBlank
  let c := if c.isAt (· == '#') then c.skipWhile (!isBreak ·) else c
  match c.break? with
  | some (_, next) => some next
  | none => if c.rest.isEmpty then some c else none

/-- Empty lines and the indentation after them: the line breaks, the deepest
indentation seen, and the place of the first character beyond. The
indentation 0 stands for one that is not known yet. -/
def blockBreaks? (indent : Nat) : Nat → Nat → Cursor → Option (List Char × Nat × Cursor)
  | 0, _, _ => none
  | fuel + 1, deepest, c =>
    let spaces := (c.rest.takeWhile (· == ' ')).length
    let c := c.skip (if indent == 0 then spaces else min spaces (indent - c.column))
    let deepest := max deepest c.column
    if (indent == 0 || c.column < indent) && c.isAt (· == '\t') then none
    else
      match c.break? with
      | none => some ([], deepest, c)
      | some (b, next) =>
        (blockBreaks? indent fuel deepest next).map fun (breaks, deepest, c) =>
          (b ++ breaks, deepest, c)

/-- The lines of a block: their text, the last line break, the empty lines
after it, and the place behind. `lead` and `breaks` are the line break and
the empty lines before the first of them, and `wasBlank` says whether the
line before began with a blank. -/
def blockLines? (folded : Bool) (indent : Nat) :
    Nat → List Char → List Char → Bool → Cursor →
      Option (List Char × List Char × List Char × Cursor)
  | 0, _, _, _, _ => none
  | fuel + 1, lead, breaks, wasBlank, c =>
    if c.column != indent || c.rest.isEmpty then some ([], lead, breaks, c)
    else
      let blank := c.isAt isBlank
      let joint :=
        if folded && lead == ['\n'] && !wasBlank && !blank then
          if breaks.isEmpty then [' '] else []
        else lead
      let (line, c) := c.span (!isBreak ·)
      let (nextLead, c) := (c.break?).getD ([], c)
      match blockBreaks? indent (c.rest.length + 1) 0 c with
      | none => none
      | some (nextBreaks, _, c) =>
        (blockLines? folded indent fuel nextLead nextBreaks blank c).map
          fun (text, ending) => (joint ++ breaks ++ line ++ text, ending)

/-- A block scalar from its mark on, in a block indented by `outer`. -/
def block? (folded : Bool) (outer : Int) (c : Cursor) : Option (List Char × Cursor) := do
  let (mode, width, c) ← blockHeader? (c.skip 1)
  let c ← lineEnd? c
  let given := match width with
    | some w => (max outer 0).toNat + w
    | none => 0
  let (breaks, deepest, c) ← blockBreaks? given (c.rest.length + 1) 0 c
  let indent := if given == 0 then max (max deepest (outer + 1).toNat) 1 else given
  let (text, lead, breaks, c) ← blockLines? folded indent (c.rest.length + 1) [] breaks false c
  let ending := match mode with
    | .strip => []
    | .clip => lead
    | .keep => lead ++ breaks
  return (text ++ ending, c)

end CloudSession.Yaml
