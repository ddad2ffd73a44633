import GlslFlatten.Proofs.ErrorLines
import GlslFlatten.Proofs.Numbering

/-!
What translation changes of an error. Its text may start with a position, which is two numbers with a
colon between them. The first number becomes the name of its file; all that is behind it stays, and an
error without a known file stays as a whole.
-/

namespace GlslFlatten

namespace Text

/-- Digits that stand for a number. Digits of other scripts than ASCII stand for none, and neither do
those of more than 64 bits. -/
structure Denotes (digits : List Char) (n : Nat) : Prop where
  nonempty : digits ≠ []
  ascii : ∀ c ∈ digits, isAsciiDigit c = true
  value : digitsValue digits = n
  limit : n < numberLimit

theorem Denotes.isDigit {digits : List Char} {n : Nat} (h : Denotes digits n) :
    ∀ c ∈ digits, isDigit c = true := fun c hc => isDigit_of_isAsciiDigit (h.ascii c hc)

theorem readNumber?_eq_some_iff {digits : List Char} {n : Nat} :
    readNumber? digits = some n ↔ Denotes digits n := by
  simp only [readNumber?, Option.ite_none_right_eq_some, Option.some.injEq, List.all_eq_true]
  constructor
  · rintro ⟨⟨hne, hascii, hlimit⟩, rfl⟩
    exact ⟨hne, hascii, rfl, hlimit⟩
  · rintro ⟨hne, hascii, rfl, hlimit⟩
    exact ⟨⟨hne, hascii, hlimit⟩, rfl⟩

end Text

namespace ValidatorLine

open Text

/-- A text that starts with a position. No digit follows the two numbers, of whatever script. -/
def Positioned (text : List Char) (p : Position) (afterIndex message : List Char) : Prop :=
  ∃ index line, Denotes index p.index ∧ Denotes line p.line ∧ text = index ++ afterIndex ∧
    afterIndex = ':' :: (line ++ message) ∧ ∀ c ∈ message.head?, isDigit c = false

theorem position?_eq_some_iff {text afterIndex message : List Char} {p : Position} :
    position? text = some (p, afterIndex, message) ↔ Positioned text p afterIndex message := by
  constructor
  · intro h
    unfold position? at h
    simp only at h
    split at h
    · rename_i tail htail
      split at h
      · rename_i index line hindex hline
        cases h
        refine ⟨_, _, readNumber?_eq_some_iff.mp hindex, readNumber?_eq_some_iff.mp hline,
          List.takeWhile_append_dropWhile.symm, ?_, fun c hc => head?_dropWhile hc⟩
        rw [List.takeWhile_append_dropWhile, htail]
      · cases h
    · cases h
  · rintro ⟨index, line, hindex, hline, rfl, rfl, hmessage⟩
    have hcolon : ∀ c ∈ (':' :: (line ++ message)).head?, isDigit c = false := by
      rintro c hc
      cases hc
      decide
    obtain ⟨hi, hafter⟩ := span_run hindex.isDigit hcolon
    obtain ⟨hl, hrest⟩ := span_run hline.isDigit hmessage
    simp only [position?, hi, hafter, hl, hrest, readNumber?_eq_some_iff.mpr hindex,
      readNumber?_eq_some_iff.mpr hline]

end ValidatorLine

namespace Registry

open Text Diagnostic ValidatorLine

variable {r : Registry}

/-- Every file was first included by one with a smaller number. -/
def Descends (r : Registry) : Prop :=
  ∀ i file includer, r.get? i = some file → file.includer = some includer → includer < i

theorem Descends.exists_chain (h : r.Descends) {i : Nat} {file : RegisteredFile}
    (hi : r.get? i = some file) : ∃ chain, r.Chain i chain := by
  induction i using Nat.strongRecOn generalizing file with
  | ind i ih =>
    cases hincluder : file.includer with
    | none => exact ⟨[], .first hi hincluder⟩
    | some j =>
      have hlt : j < i := h i file j hi hincluder
      have hsize : i < r.files.length := (List.getElem?_eq_some_iff.mp hi).1
      obtain ⟨chain, hchain⟩ := ih j hlt (List.getElem?_eq_getElem (Nat.lt_trans hlt hsize))
      exact ⟨j :: chain, .next hi hincluder hlt hchain⟩

/-- The translation of a line, which is blank at neither end when it is looked at. Nothing is left of
what is no error. Of an error in a known file the number of the file is replaced, and the files that
lead up to one without an includer follow. Any other error stays as it is. -/
theorem translate_rewrites_index (h : r.Descends) (line : String) :
    let t := trim line
    (r.translate line = [] ↔ isMarked t = false ∨ '\n' ∈ t.toList) ∧
    (∀ text, t.toList = errorMark.toList ++ text → '\n' ∉ text →
      (∀ p afterIndex message file, Positioned text p afterIndex message →
        r.get? p.index = some file →
          (∃ chain, r.Chain p.index chain ∧ r.includeChain p.index = chain.filterMap r.get?) ∧
          r.translate line = (errorMark ++ file.name ++ .ofList afterIndex) ::
            (r.includeChain p.index).map includedFrom) ∧
      ((∀ p afterIndex message, Positioned text p afterIndex message → r.get? p.index = none) →
        r.translate line = [t])) ∧
    (r.translate line ≠ [] → ∃ (first : String) (chain : List RegisteredFile),
      r.translate line = first :: chain.map includedFrom ∧ isMarked first = true) := by
  intro t
  refine ⟨r.translate_eq_nil_iff, fun text htext hnewline => ⟨?_, ?_⟩, fun hne => ?_⟩
  · intro p afterIndex message file hp hfile
    obtain ⟨chain, hchain⟩ := h.exists_chain hfile
    refine ⟨⟨chain, hchain, hchain.includeChain⟩, ?_⟩
    simp only [r.translate_mark htext hnewline, position?_eq_some_iff.mpr hp, hfile]
  · intro hunknown
    rw [r.translate_mark htext hnewline]
    cases hposition : position? text with
    | none => rfl
    | some position =>
      obtain ⟨p, afterIndex, message⟩ := position
      have hnone := hunknown p afterIndex message (position?_eq_some_iff.mp hposition)
      simp only [hnone]
      rfl
  · rcases r.translate_shape line with hnil | ⟨first, chain, htranslate, hmarked, _⟩
    · exact absurd hnil hne
    · exact ⟨first, chain, htranslate, hmarked⟩

/-- A second position in the message stays, and so does the zero in front of the line number. -/
theorem translate_rewrites_index_sample :
    let r : Registry := ⟨[⟨⟨"/s/main"⟩, "main", none⟩, ⟨⟨"/s/lib"⟩, "lib", some 0⟩]⟩
    r.Descends ∧ r.translate "\tERROR: 1:05: 'é' : see 0:1 " =
      ["ERROR: lib:05: 'é' : see 0:1", "       (included from main)"] := by
  intro r
  have hdescends : r.Descends := by
    intro i file includer hi hincluder
    match i, hi with
    | 0, hi => cases hi; cases hincluder
    | 1, hi => cases hi; cases hincluder; decide
  refine ⟨hdescends, ?_⟩
  obtain ⟨_, htext, _⟩ := translate_rewrites_index hdescends "\tERROR: 1:05: 'é' : see 0:1 "
  obtain ⟨hknown, _⟩ := htext "1:05: 'é' : see 0:1".toList (by decide +kernel) (by decide +kernel)
  have hposition : Positioned "1:05: 'é' : see 0:1".toList ⟨1, 5⟩ ":05: 'é' : see 0:1".toList
      ": 'é' : see 0:1".toList := position?_eq_some_iff.mp (by decide +kernel)
  obtain ⟨_, htranslate⟩ := hknown _ _ _ _ hposition rfl
  rw [htranslate]
  decide +kernel

end Registry

end GlslFlatten
