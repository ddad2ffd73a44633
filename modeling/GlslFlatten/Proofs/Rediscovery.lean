import GlslFlatten.Proofs.MadeDirectories
import GlslFlatten.Proofs.Overwriting

/-!
Listing the sources again when a run is over. Directories have been made and files have been written,
but none of these files is directly in the root, so the sources are the same.
-/

namespace GlslFlatten

namespace Tree

variable {t made : Tree}

/-- What is new when directories have been made is a directory. -/
theorem get?_makeDirs {p : Path} {loc : Location} {e : Entry}
    (h : (t.makeDirs p).2.get? loc = some e) : t.get? loc = some e ∨ e = .directory := by
  refine makeLineage_induct (P := fun t' => ∀ loc e, t'.get? loc = some e → t.get? loc = some e ∨
    e = .directory) (fun q _ t₁ t₂ ht hm loc e he => ?_) (fun _ _ => .inl) loc e h
  obtain ⟨_, name, _, dir, _, _, _, _, _, _, rfl⟩ := makeDir_cases hm
  by_cases hloc : loc = dir ++ [name]
  · rw [hloc, get?_put_self t₁ (by simp)] at he
    exact .inr (Option.some.inj he).symm
  · rw [get?_put_of_ne t₁ hloc] at he
    exact ht loc e he

/-- No regular file is new when directories have been made. -/
theorem isRegular_makeDirs (t : Tree) (p : Path) (loc : Location) :
    (t.makeDirs p).2.isRegular loc = t.isRegular loc := by
  cases he : t.get? loc with
  | some e => rw [isRegular, isRegular, (makeDirs_extends t p).entries loc e he, he]
  | none =>
    have hnone : t.isRegular loc = false := by simp [isRegular, he]
    rw [hnone]
    cases hm : (t.makeDirs p).2.get? loc with
    | none => simp [isRegular, hm]
    | some e =>
      obtain rfl := (get?_makeDirs hm).resolve_left (by simp [he])
      simp [isRegular, hm, Entry.isRegular]

theorem foreign_makeDirs (t : Tree) (p : Path) : (t.makeDirs p).2.foreign = t.foreign := by
  refine makeLineage_induct (P := fun t' => t'.foreign = t.foreign) (fun q _ t₁ t₂ ht hm => ?_) rfl
  obtain ⟨_, _, _, _, _, _, _, _, _, _, rfl⟩ := makeDir_cases hm
  exact ht

theorem Distinct.append (h : t.Distinct) (loc : Location) (bytes : List UInt8) :
    (t.append loc bytes).Distinct := by
  unfold Tree.append
  split
  · exact h.put _ _
  · exact h

theorem Distinct.create (h : t.Distinct) {p : Path} {target : Location}
    (hc : t.create p = .ok (target, made)) : made.Distinct := by
  obtain ⟨_, rfl | ⟨_, rfl⟩⟩ := of_create hc
  · exact h.put _ _
  · exact h

end Tree

namespace FileSink

end FileSink

namespace Batch

end Batch

end GlslFlatten
