import GlslFlatten.Standin.Program.Shell.Command

/-!
Patterns for names: a star stands for any text, a question mark for any character, and brackets hold a
choice of characters. What is quoted stands for itself.
-/

namespace GlslFlatten.Shell

/-- Characters of a word, each with whether it is quoted. -/
abbrev Marked := List (Char × Bool)

inductive GlobItem where
  | char (c : Char)
  | any
  | many
  | choice (negated : Bool) (ranges : List (Char × Char))
  deriving DecidableEq, Repr

namespace GlobItem

def classNamed (name : Octets) : List (Char × Char) :=
  match String.ofList name with
  | "alpha" => [('a', 'z'), ('A', 'Z')]
  | "digit" => [('0', '9')]
  | "alnum" => [('a', 'z'), ('A', 'Z'), ('0', '9')]
  | "upper" => [('A', 'Z')]
  | "lower" => [('a', 'z')]
  | "space" => [('\t', '\r'), (' ', ' ')]
  | "blank" => [('\t', '\t'), (' ', ' ')]
  | "punct" => [('!', '/'), (':', '@'), ('[', '\x60'), ('\x7b', '~')]
  | "xdigit" => [('0', '9'), ('a', 'f'), ('A', 'F')]
  | _ => []

/-- The ranges in brackets up to the closing one, and what follows it. -/
def choiceRanges : (fuel : Nat) → (first : Bool) → List (Char × Char) → Marked →
    Option (List (Char × Char) × Marked)
  | 0, _, _, _ => none
  | _, _, _, [] => none
  | fuel + 1, first, ranges, (c, quoted) :: rest =>
    if c = ']' && !quoted && !first then some (ranges, rest)
    else match rest with
      | (':', false) :: more =>
        let name := (more.map (·.1)).takeWhile (· ≠ ':')
        let behind := ((more.drop name.length).take 2).map (·.1)
        if c = '[' && !quoted && behind = [':', ']'] then
          choiceRanges fuel false (ranges ++ classNamed name) (more.drop (name.length + 2))
        else choiceRanges fuel false (ranges ++ [(c, c)]) rest
      | ('-', false) :: (d, q) :: more =>
        if d = ']' && !q then choiceRanges fuel false (ranges ++ [(c, c)]) rest
        else choiceRanges fuel false (ranges ++ [(c, d)]) more
      | _ => choiceRanges fuel false (ranges ++ [(c, c)]) rest

def choice? (text : Marked) : Option (GlobItem × Marked) :=
  let (negated, body) := match text with
    | ('!', false) :: rest => (true, rest)
    | ('^', false) :: rest => (true, rest)
    | _ => (false, text)
  (choiceRanges (body.length + 1) true [] body).map fun (ranges, rest) =>
    (choice negated ranges, rest)

def ofMarked : (fuel : Nat) → Marked → List GlobItem
  | 0, _ => []
  | _, [] => []
  | fuel + 1, (c, quoted) :: rest =>
    if quoted then char c :: ofMarked fuel rest
    else if c = '*' then many :: ofMarked fuel rest
    else if c = '?' then any :: ofMarked fuel rest
    else if c = '[' then
      match choice? rest with
      | some (item, rest) => item :: ofMarked fuel rest
      | none => char c :: ofMarked fuel rest
    else char c :: ofMarked fuel rest

/-- Whether an item stands for a character. -/
def accepts (item : GlobItem) (c : Char) : Bool :=
  match item with
  | char d => c = d
  | any => true
  | many => true
  | choice negated ranges => (ranges.any fun r => r.1 ≤ c && c ≤ r.2) != negated

/-- Whether items match a text as a whole. -/
def matchAll : List GlobItem → Octets → Bool
  | [], cs => cs.isEmpty
  | many :: items, [] => matchAll items []
  | many :: items, c :: cs => matchAll items (c :: cs) || matchAll (many :: items) cs
  | _ :: _, [] => false
  | item :: items, c :: cs => item.accepts c && matchAll items cs
termination_by items cs => items.length + cs.length

end GlobItem

def globItems (pattern : Marked) : List GlobItem := GlobItem.ofMarked (pattern.length + 1) pattern

def matchesGlob (pattern : Marked) (text : Octets) : Bool :=
  GlobItem.matchAll (globItems pattern) text

def hasGlob (pattern : Marked) : Bool :=
  pattern.any fun (c, quoted) => !quoted && ['*', '?', '['].contains c

/-- Takes the shortest or the longest matching piece off an end of a text. -/
def stripGlob (suffix longest : Bool) (pattern : Marked) (text : Octets) : Octets :=
  let lengths := List.range (text.length + 1)
  let lengths := if longest then lengths.reverse else lengths
  let piece (n : Nat) : Octets := if suffix then text.drop (text.length - n) else text.take n
  match lengths.find? fun n => matchesGlob pattern (piece n) with
  | some n => if suffix then text.take (text.length - n) else text.drop n
  | none => text

end GlslFlatten.Shell
