import GlslFlatten.Proofs.Running
import GlslFlatten.Proofs.Traversal

/-!
The open files of a walk. They are on the stack of the context, no two of them are the same, and all
are files of the tree and registered, whatever the context held before.
-/

namespace GlslFlatten

namespace Context

/-- What opening a file on behalf of a directive means and when it is refused. -/
theorem enter_some (c : Context) (p : Path) (o : Origin) :
    c.enter p (some o) =
      if c.isOpen p then
        .error (.recursiveInclude (c.nameOf p) o.name o.line
          (" -> ".intercalate (c.stack.map c.nameOf ++ [c.nameOf p])))
      else if c.maxDepth ≤ c.depth then .error (.depthExceeded (c.nameOf p) o.name o.line c.maxDepth)
      else .ok { c with stack := c.stack ++ [p] } := rfl

theorem of_enter_some {c c' : Context} {p : Path} {o : Origin} (h : c.enter p (some o) = .ok c') :
    c.isOpen p = false ∧ c.depth < c.maxDepth ∧ c' = { c with stack := c.stack ++ [p] } := by
  rw [enter_some] at h
  split at h
  · cases h
  · rename_i hopen
    split at h
    · cases h
    · rename_i hdepth
      exact ⟨by simpa using hopen, by omega, (Except.ok.inj h).symm⟩

theorem enter_of_closed {c : Context} {p : Path} (hopen : c.isOpen p = false)
    (hdepth : c.depth < c.maxDepth) (o : Origin) :
    c.enter p (some o) = .ok { c with stack := c.stack ++ [p] } := by
  have hroom : ¬ c.maxDepth ≤ c.depth := by omega
  rw [enter_some, hopen, if_neg (by simp), if_neg hroom]

end Context

namespace Traversal

variable {t : Tree} {m m' : State}

/-- Paths of the open files, from the outermost to the innermost. -/
def State.paths (m : State) : List Path := (m.opened.map Location.path).reverse

structure Nested (t : Tree) (base : List Path) (m : State) : Prop where
  distinct : m.opened.Nodup
  files : ∀ loc ∈ m.opened, t.isRegular loc = true
  stack : m.context.stack = base ++ m.paths
  known : ∀ loc ∈ m.opened, ∃ e ∈ m.context.registry.files, e.path.same loc.path = true

theorem opened_openFile (c : Context) (outer : List Frame) (lines : List FlatLine) (loc : Location)
    (includer : Option Nat) :
    (openFile c outer lines loc includer).opened = loc :: outer.map (·.file.loc) := rfl

theorem paths_openFile (c : Context) (outer : List Frame) (lines : List FlatLine) (loc : Location)
    (includer : Option Nat) :
    (openFile c outer lines loc includer).paths =
      ((outer.map (·.file.loc)).map Location.path).reverse ++ [loc.path] := by
  simp [State.paths, opened_openFile]

theorem path_mem_paths {loc : Location} (h : loc ∈ m.opened) : loc.path ∈ m.paths :=
  List.mem_reverse.mpr (List.mem_map.mpr ⟨loc, h, rfl⟩)

theorem Nested.fresh {base : List Path} (h : Nested t base m) {loc : Location}
    (ho : m.context.isOpen loc.path = false) : loc ∉ m.opened := by
  intro hm
  have : m.context.isOpen loc.path = true := by
    refine List.any_eq_true.mpr ⟨loc.path, ?_, Path.same_refl _⟩
    rw [h.stack]
    exact List.mem_append_right _ (path_mem_paths hm)
  rw [this] at ho
  cases ho

theorem Nested.start {c : Context} {loc : Location} (hc : t.isRegular loc = true) :
    Nested t c.stack (start c loc) where
  distinct := by simp [Traversal.start, opened_openFile]
  files := by
    intro other hm
    obtain rfl : other = loc := by simpa [Traversal.start, opened_openFile] using hm
    exact hc
  stack := by
    rw [Traversal.start, paths_openFile]
    rfl
  known := by
    intro other hm
    obtain rfl : other = loc := by simpa [Traversal.start, opened_openFile] using hm
    exact Registry.known_register c.registry other.path _ _

theorem Nested.step {base : List Path} (h : Nested t base m) (hs : Step t m m') :
    Nested t base m' := by
  rcases step_cases hs with ⟨text, hl, rfl⟩ | ⟨d, loc, context, hl, hr, he, rfl⟩ |
    ⟨includer, outer, hl, ho, rfl⟩
  case inl =>
    exact ⟨h.distinct, h.files, h.stack, h.known⟩
  case inr.inl =>
    obtain ⟨hopen, _, rfl⟩ := Context.of_enter_some he
    refine ⟨List.nodup_cons.mpr ⟨h.fresh hopen, h.distinct⟩, ?_, ?_, ?_⟩
    · exact List.forall_mem_cons.mpr ⟨Source.isRegular_of_resolve hr, h.files⟩
    · rw [paths_openFile, ← List.append_assoc]
      exact congrArg (· ++ [loc.path]) h.stack
    · refine List.forall_mem_cons.mpr ⟨Registry.known_register m.context.registry loc.path _ _, ?_⟩
      intro other hm
      obtain ⟨e, he, hs⟩ := h.known other hm
      exact ⟨e, (Registry.Extends.register m.context.registry _ _ _).subset he, hs⟩
  case inr.inr =>
    have hopen : m.opened = m.top.file.loc :: (m.resume includer outer).opened := by
      simp [State.opened, State.frames, ho, State.resume, Frame.next]
    refine ⟨?_, ?_, ?_, ?_⟩
    · exact (List.nodup_cons.mp (hopen ▸ h.distinct)).2
    · exact (List.forall_mem_cons.mp (hopen ▸ h.files)).2
    · change m.context.stack.dropLast = base ++ (m.resume includer outer).paths
      rw [h.stack, State.paths, hopen, List.map_cons, List.reverse_cons, ← List.append_assoc,
        List.dropLast_concat]
      rfl
    · exact (List.forall_mem_cons.mp (hopen ▸ h.known)).2

theorem Nested.run {base : List Path} (h : Nested t base m) (hr : Run t m m') : Nested t base m' := by
  induction hr with
  | refl => exact h
  | tail _ hs ih => exact ih.step hs

theorem root_of_step (hs : Step t m m') : m'.context.root = m.context.root := by
  rcases step_cases hs with ⟨text, hl, rfl⟩ | ⟨d, loc, context, hl, hr, he, rfl⟩ |
    ⟨includer, outer, hl, ho, rfl⟩
  · rfl
  · obtain ⟨_, _, rfl⟩ := Context.of_enter_some he
    rfl
  · rfl

theorem root_of_run (hr : Run t m m') : m'.context.root = m.context.root := by
  induction hr with
  | refl => rfl
  | tail _ hs ih => rw [root_of_step hs, ih]

theorem maxDepth_of_step (h : Step t m m') : m'.context.maxDepth = m.context.maxDepth := by
  rcases step_cases h with ⟨text, hl, rfl⟩ | ⟨d, loc, context, hl, hr, he, rfl⟩ |
    ⟨includer, outer, hl, ho, rfl⟩
  · rfl
  · obtain ⟨_, _, rfl⟩ := Context.of_enter_some he
    rfl
  · rfl

theorem maxDepth_of_run (h : Run t m m') : m'.context.maxDepth = m.context.maxDepth := by
  induction h with
  | refl => rfl
  | tail _ hs ih => rw [maxDepth_of_step hs, ih]

/-- There are enough files for the open ones. -/
theorem Nested.length_le {base : List Path} (h : Nested t base m) :
    m.frames.length ≤ t.entries.length := by
  have := Tree.length_le_of_nodup h.distinct h.files
  simpa [State.opened] using this

end Traversal

end GlslFlatten
