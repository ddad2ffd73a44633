import GlslFlatten.Proofs.Acceptance
import GlslFlatten.Proofs.WalkEnd
import Mathlib.Data.List.Dedup

/-!
Every expansion ends. The limit on open files may be too high to be of use, but a walk never opens a
file that is open already, so that the files of the tree bound its depth, and the end that a bounded
expansion comes to is the end of the walk.
-/

namespace GlslFlatten

namespace Tree

/-- The locations of the regular files, each of them once. -/
def files (t : Tree) : List Location :=
  ((t.entries.map (·.1)).filter t.isRegular).dedup

theorem mem_files {t : Tree} {loc : Location} : loc ∈ t.files ↔ t.isRegular loc = true := by
  rw [files, List.mem_dedup, List.mem_filter]
  exact ⟨And.right, fun h => ⟨mem_entries_of_isRegular h, h⟩⟩

end Tree

/-- A stack of files of the tree, no two of them the same, and no more than `limit` unless there is
only one. -/
structure StackBounded (t : Tree) (limit : Nat) (stack : List Path) : Prop where
  files : ∀ p ∈ stack, ∃ loc ∈ t.files, p = loc.path
  distinct : stack.Pairwise fun p q => p.same q = false
  length_le : stack.length ≤ min (max 1 limit) t.files.length

namespace Traversal

variable {t : Tree} {c : Context} {loc : Location} {m m' : State} {source : String}

/-- Locations that differ have paths that differ. -/
theorem distinct_paths {locs : List Location} (hn : locs.Nodup) (hp : ∀ l ∈ locs, l.Plain) :
    (locs.map Location.path).Pairwise fun p q => p.same q = false := by
  rw [List.pairwise_map]
  refine hn.imp_of_mem fun {a b} ha hb hne => ?_
  rw [Bool.eq_false_iff]
  exact fun hs => hne ((Location.same_path_iff (hp a ha) (hp b hb)).mp hs)

/-- At every point of a walk the stack is bounded, by the limit and by the files that there are. -/
theorem stack_bounded (hc : c.Fresh) (hr : Source.resolve t c.root source = .ok loc)
    (hrun : Run t (start c loc) m) : StackBounded t c.maxDepth m.context.stack := by
  have hs := Sound.of_run hc hr hrun
  have hlength : m.context.stack.length = m.outer.length + 1 := hs.depth
  have hstack : m.context.stack = m.opened.reverse.map Location.path := by
    rw [hs.stack, State.paths, List.map_reverse]
  refine ⟨fun p hp => ?_, ?_, Nat.le_min.mpr ⟨?_, ?_⟩⟩
  · rw [hstack] at hp
    obtain ⟨l, hl, rfl⟩ := List.mem_map.mp hp
    exact ⟨l, Tree.mem_files.mpr (hs.nested.files l (List.mem_reverse.mp hl)), rfl⟩
  · rw [hstack]
    exact distinct_paths (List.nodup_reverse.mpr hs.nested.distinct)
      fun l hl => hs.plain (List.mem_reverse.mp hl)
  · obtain ⟨hroom, _⟩ := Cleared.run hc hr hrun
    omega
  · rw [hstack, List.length_map, List.length_reverse]
    exact hs.nested.distinct.length_le_of_subset fun l hl =>
      Tree.mem_files.mpr (hs.nested.files l hl)

/-- Steps are determined, so a walk that comes to an end has no other way to go. -/
theorem acc_of_run (hrun : Run t m m') (hend : Final t m') :
    Acc (fun next m => Step t m next) m := by
  induction hrun using Relation.ReflTransGen.head_induction_on with
  | refl => exact ⟨_, fun next hs => absurd hs (hend next)⟩
  | head hs _ ih => exact ⟨_, fun next hs' => hs.unique hs' ▸ ih⟩

/-- The walk that an expansion into memory without a limit follows comes to its end. -/
theorem acc_start (hr : Source.resolve t c.root source = .ok loc) :
    Acc (fun next m => Step t m next) (start c loc) := by
  obtain ⟨m, hrun, hfinal, _⟩ := @expand_reaches_end t c source loc {} _ rfl hr rfl
  exact acc_of_run hrun hfinal

/-- An expansion has ended where the walk is in the state `m`: at its end, at a line that cannot be
processed, or because the output has refused a line. -/
def EndsAt {σ : Type} (o : Output σ) (t : Tree) (m : State) :
    EStateM.Result Failure (Progress σ) Unit → Prop
  | .ok () s => s.context = m.context.leave ∧ step t m = .ok none
  | .error failure s => s.context = m.context ∧ (step t m = .error failure ∨
      (∃ e, failure = .system e) ∧ ∃ line out e, (o.write line out).1 = .error e)

end Traversal

open Traversal in
/-- An expansion from a fresh context ends, whatever the files include. It fails at once if the source
is no file. Else it is a walk without an infinite continuation, on which the stack is bounded all the
time. -/
theorem expand_halts {σ : Type} {o : Output σ} {t : Tree} {config : Config} {c : Context}
    (ho : ∀ out, o.tree out = t) (hc : Context.start t config = .ok c) (source : String) (out : σ) :
    (∃ failure, Source.resolve t c.root source = .error failure ∧
      expand o source { out, context := c } = .error failure { out, context := c }) ∨
    ∃ loc, Source.resolve t c.root source = .ok loc ∧
      Acc (fun next m => Step t m next) (start c loc) ∧
      (∀ m, Run t (start c loc) m → StackBounded t config.maxDepth m.context.stack) ∧
      ∃ m, Run t (start c loc) m ∧ EndsAt o t m (expand o source { out, context := c }) := by
  obtain ⟨hfresh, hdepth⟩ := Context.fresh_of_start hc
  cases hr : Source.resolve t c.root source with
  | error failure =>
    exact .inl ⟨failure, rfl, expand_of_unresolved (s := { out, context := c }) ((ho out).symm ▸ hr)⟩
  | ok loc =>
    refine .inr ⟨loc, rfl, acc_start hr, fun m hrun => hdepth ▸ stack_bounded hfresh hr hrun, ?_⟩
    have hends := expand_ends (s := { out, context := c }) (Output.serves_of_fixed ho c.root) trivial
      (by rw [ho]) hr (fun _ _ => trivial)
    cases hx : expand o source { out, context := c } with
    | ok u s =>
      rw [hx] at hends
      obtain ⟨m, hrun, hend, houter, hcontext, _⟩ := hends
      exact ⟨m, hrun, hcontext, step_eq_end_iff.mpr ⟨hend, houter⟩⟩
    | error failure s =>
      rw [hx] at hends
      obtain ⟨m, hrun, hcontext, hstuck⟩ := hends
      exact ⟨m, hrun, hcontext, hstuck.imp_left And.left⟩

open Traversal in
/-- A file that includes itself, with a limit that is no limit. The tree has four files. -/
theorem expand_halts_loop :
    let c : Context := { root := ⟨"/s"⟩, maxDepth := 18446744073709551615 }
    Acc (fun next m => Step .sample m next) (start c ["s", "loop"]) ∧
      (∀ m, Run .sample (start c ["s", "loop"]) m → m.context.stack.length ≤ 4) ∧
      ∃ m, Run .sample (start c ["s", "loop"]) m ∧
        EndsAt (Sink.output .sample) .sample m
          (expand (Sink.output .sample) "loop" { out := {}, context := c }) := by
  intro c
  have hc : Context.start .sample { root := ⟨"/s"⟩, maxDepth := 18446744073709551615 } = .ok c := by
    decide +kernel
  have hr : Source.resolve .sample c.root "loop" = .ok ["s", "loop"] := by decide +kernel
  have hfiles : Tree.sample.files.length = 4 := by decide +kernel
  rcases expand_halts (o := Sink.output .sample) (fun _ => rfl) hc "loop" {} with
    ⟨failure, hfailure, _⟩ | ⟨loc, hloc, hacc, hbounded, hends⟩
  · cases hr.symm.trans hfailure
  · cases hr.symm.trans hloc
    refine ⟨hacc, fun m hrun => ?_, hends⟩
    exact hfiles ▸ (hbounded m hrun).length_le.trans (Nat.min_le_right _ _)

end GlslFlatten
