import GlslFlatten.Proofs.IndexRewriting
import GlslFlatten.Proofs.Invariants
import GlslFlatten.Proofs.SharedContext

/-!
Links from files to the files that included them first. A file gets its number after its includer,
whatever calls share a context and however they end, so all links lead to smaller numbers. The way along
them comes to an end by itself, and the limit that the registry sets to it is never what ends it.
-/

namespace GlslFlatten

namespace Registry

variable {r r' : Registry} {i k : Nat} {numbers : List Nat}

theorem Extends.size_le (h : r.Extends r') : r.size ≤ r'.size := List.IsPrefix.length_le h

theorem lt_size_register (r : Registry) (p : Path) (name : String) (includer : Option Nat) :
    (r.register p name includer).1 < (r.register p name includer).2.size :=
  (List.findIdx?_eq_some_iff_getElem.mp (r.indexOf?_register p name includer)).1

theorem Descends.register (h : r.Descends) (p : Path) (name : String) {includer : Option Nat}
    (hi : ∀ j ∈ includer, j < r.size) : (r.register p name includer).2.Descends := by
  cases hknown : r.indexOf? p with
  | some i => rwa [register_of_indexOf? hknown]
  | none =>
    intro i file j hfile hj
    rw [get?_register_of_new hknown] at hfile
    split at hfile
    · rename_i hsize
      cases hfile
      exact hsize ▸ hi j hj
    · exact h i file j hfile hj

/-- The number of the file that first included file `i`. -/
def link? (r : Registry) (i : Nat) : Option Nat := (r.get? i).bind (·.includer)

/-- The way up from a link, over any number of files. It ends where there is no link or no file. -/
inductive Climbs (r : Registry) : Option Nat → List Nat → Prop
  | top : Climbs r none []
  | lost {i : Nat} : r.get? i = none → Climbs r (some i) []
  | up {i : Nat} {file : RegisteredFile} {numbers : List Nat} : r.get? i = some file →
      Climbs r file.includer numbers → Climbs r (some i) (i :: numbers)

theorem Climbs.unique {link : Option Nat} {others : List Nat} (h : r.Climbs link numbers)
    (h' : r.Climbs link others) : others = numbers := by
  induction h generalizing others with
  | top =>
    cases h'
    rfl
  | lost hnone =>
    cases h' with
    | lost => rfl
    | up hfile _ => cases hnone.symm.trans hfile
  | up hfile _ ih =>
    cases h' with
    | lost hnone => cases hnone.symm.trans hfile
    | up hfile' h' =>
      cases hfile.symm.trans hfile'
      rw [ih h']

namespace Chain

theorem get? (h : r.Chain i numbers) : ∃ file, r.get? i = some file :=
  ⟨_, List.getElem?_eq_getElem h.lt_size⟩

theorem climbs (h : r.Chain i numbers) : r.Climbs (r.link? i) numbers := by
  induction h with
  | first hfile hnone =>
    rw [link?, hfile, Option.bind_some, hnone]
    exact .top
  | @next i j file numbers hfile hincluder _ hchain ih =>
    obtain ⟨includer, hj⟩ := hchain.get?
    rw [link?, hj] at ih
    rw [link?, hfile, Option.bind_some, hincluder]
    exact .up hj ih

theorem map_get? (h : r.Chain i numbers) : numbers.map r.get? = (r.includeChain i).map some := by
  rw [h.includeChain]
  induction h with
  | first => rfl
  | next _ _ _ hchain ih =>
    obtain ⟨file, hj⟩ := hchain.get?
    rw [List.map_cons, List.filterMap_cons, hj, ih]
    rfl

theorem pairwise (h : r.Chain i numbers) : (i :: numbers).Pairwise (· > ·) := by
  induction h with
  | first => exact List.pairwise_singleton _ _
  | next _ _ hlt _ ih =>
    refine List.pairwise_cons.mpr ⟨fun m hm => ?_, ih⟩
    rcases List.mem_cons.mp hm with rfl | hm
    · exact hlt
    · exact Nat.lt_trans ((List.pairwise_cons.mp ih).1 m hm) hlt

/-- The way ends at a file without an includer. -/
theorem getLast? (h : r.Chain i numbers) :
    ∀ file ∈ ((i :: numbers).filterMap r.get?).getLast?, file.includer = none := by
  induction h with
  | first hfile hnone =>
    intro file hlast
    simp only [List.filterMap_cons, hfile, List.filterMap_nil, List.getLast?_singleton,
      Option.mem_some_iff] at hlast
    exact hlast ▸ hnone
  | next hfile _ _ hchain ih =>
    obtain ⟨includer, hj⟩ := hchain.get?
    intro file hlast
    rw [List.filterMap_cons, hfile] at hlast
    rw [List.filterMap_cons, hj] at hlast ih
    exact ih file (by simpa using hlast)

end Chain

theorem includeChain_of_unknown (h : r.get? k = none) : r.includeChain k = [] := by
  unfold includeChain
  cases r.size <;> simp [includers, h]

/-- The way up from file `k`, and what the iteration over the includers of `k` yields. -/
structure Ascent (r : Registry) (k : Nat) (numbers : List Nat) : Prop where
  climbs : r.Climbs (r.link? k) numbers
  only : ∀ others, r.Climbs (r.link? k) others → others = numbers
  files : numbers.map r.get? = (r.includeChain k).map some
  decreasing : (k :: numbers).Pairwise (· > ·)
  length : numbers.length ≤ k
  last : ∀ file ∈ ((k :: numbers).filterMap r.get?).getLast?, file.includer = none

theorem Descends.exists_ascent (h : r.Descends) (k : Nat) : ∃ numbers, r.Ascent k numbers := by
  cases hk : r.get? k with
  | some file =>
    obtain ⟨numbers, hchain⟩ := h.exists_chain hk
    exact ⟨numbers, hchain.climbs, fun _ hclimbs => hchain.climbs.unique hclimbs, hchain.map_get?,
      hchain.pairwise, hchain.length_le, hchain.getLast?⟩
  | none =>
    have hclimbs : r.Climbs (r.link? k) [] := by
      rw [link?, hk, Option.bind_none]
      exact .top
    refine ⟨[], hclimbs, fun _ h' => hclimbs.unique h', ?_, List.pairwise_singleton _ _,
      Nat.zero_le k, ?_⟩
    · rw [includeChain_of_unknown hk]
      rfl
    · simp [hk]

open Text in
/-- The lines that stand for a line of validator output, by the way that leads to them. -/
theorem translate_cases (r : Registry) (line : String) :
    r.translate line = [] ∨ r.translate line = [trim line] ∨
      ∃ k file first, r.get? k = some file ∧
        r.translate line = first :: (r.includeChain k).map includedFrom := by
  unfold translate
  simp only
  split
  · exact .inl rfl
  split
  · exact .inl rfl
  right
  split
  · exact .inl rfl
  rename_i position _
  split
  · exact .inl rfl
  · rename_i file hfile
    exact .inr ⟨position.index, file, _, hfile, rfl⟩

open Text in
/-- Behind an error in file `k` stand the files on the way up from it, and nothing else. -/
theorem Descends.translate_climbs (h : r.Descends) (line : String) :
    (r.translate line).length ≤ max 1 r.size ∧
      (r.translate line = [] ∨ r.translate line = [trim line] ∨
        ∃ k numbers first, r.Climbs (r.link? k) numbers ∧
          r.translate line = first :: (numbers.filterMap r.get?).map includedFrom) := by
  rcases r.translate_cases line with hnil | hsame | ⟨k, file, first, hk, htranslate⟩
  · exact ⟨hnil ▸ Nat.zero_le _, .inl hnil⟩
  · exact ⟨hsame ▸ Nat.le_max_left 1 _, .inr (.inl hsame)⟩
  · obtain ⟨numbers, hchain⟩ := h.exists_chain hk
    rw [hchain.includeChain] at htranslate
    refine ⟨?_, .inr (.inr ⟨k, numbers, first, hchain.climbs, htranslate⟩)⟩
    have hfiles : (numbers.filterMap r.get?).length ≤ numbers.length := List.length_filterMap_le _ _
    have hlength := hchain.length_le
    have hsize := hchain.lt_size
    rw [htranslate, List.length_cons, List.length_map]
    omega

end Registry

namespace Expansion

variable {σ : Type} {n : Nat}

/-- All links lead downwards, and there are `n` files at least: no file whose number is smaller than `n`
is refused as an includer. -/
def LinksDown (n : Nat) (s : Progress σ) : Prop :=
  s.context.registry.Descends ∧ n ≤ s.context.registry.size

theorem LinksDown.register {s : Progress σ} {c : Context} (h : LinksDown n s)
    (hc : c.registry = s.context.registry) (p : Path) (name : String) {includer : Option Nat}
    (hi : ∀ j ∈ includer, j < n) :
    LinksDown (max n ((c.register p name includer).1 + 1))
      { s with context := (c.register p name includer).2 } := by
  obtain ⟨hdown, hsize⟩ := h
  rw [← hc] at hdown hsize
  have hgrown := (Context.extends_register c p name includer).size_le
  have hindex := c.registry.lt_size_register p name includer
  refine ⟨hdown.register p name fun j hj => Nat.lt_of_lt_of_le (hi j hj) hsize, ?_⟩
  exact Nat.max_le.mpr ⟨Nat.le_trans hsize hgrown, hindex⟩

/-- A file that is opened may be an includer from then on, as all may be that are below it. -/
theorem family_linksDown (o : Output σ) : InvariantFamily o LinksDown (fun _ => True)
    (fun n _ origin => ∀ asked ∈ origin, asked.index < n) (fun n file => file.index < n) where
  log := fun _ h => h
  emit := fun n => emit_context (fun c => c.registry.Descends ∧ n ≤ c.registry.size) o
  unresolved := fun _ _ _ => trivial
  refused := fun _ _ _ _ => trivial
  opened := by
    intro n s path origin loc c h ha _ he
    have hi : ∀ j ∈ origin.map (·.index), j < n := by
      intro j hj
      obtain ⟨asked, hasked, rfl⟩ := Option.map_eq_some_iff.mp hj
      exact ha asked hasked
    refine ⟨_, h.register (Context.registry_enter he) loc.path (s.context.nameOf loc.path) hi,
      Nat.le_max_right n _, fun s' hs' => ?_⟩
    exact ⟨hs'.1, Nat.le_trans (Nat.le_max_left n _) hs'.2⟩
  left := fun h => h
  unopened := fun _ _ _ => trivial
  endless := fun _ => trivial
  bottomless := fun _ => trivial
  line := by
    intro n file bytes number hf _
    cases Line.read number bytes with
    | directive d =>
      rintro asked ⟨⟩
      exact hf
    | _ => trivial

/-- An expansion that begins with links that lead downwards ends with such links, well or not. -/
theorem descends_expand (o : Output σ) (source : String) {s : Progress σ}
    (h : s.context.registry.Descends) :
    (remains (expand o source s)).context.registry.Descends := by
  have hnone : ∀ asked ∈ (none : Option Origin), asked.index < 0 := by simp
  have hkeeps : Preserves (LinksDown 0) (fun _ => True) (expand o source) :=
    (family_linksDown o).expand hnone
  rw [← endState_eq_remains]
  exact (hkeeps s ⟨h, Nat.zero_le _⟩).endState.1

end Expansion

open Expansion

namespace Session

/-- An includer that a registration names has a number already. -/
def Call.Backed (c : Context) : Call → Prop
  | .register _ _ includer => ∀ j ∈ includer, j < c.registry.size
  | _ => True

/-- All calls are backed, each where its turn is. -/
def Backed : Session → List Call → Prop
  | _, [] => True
  | s, call :: calls => call.Backed s.context ∧ (s.after call).Backed calls

variable {s : Session} {call : Call}

theorem context_after (s : Session) (call : Call) : (s.after call).context = (call.run s.context).2 := by
  cases call <;> rfl

theorem registry_enter (c : Context) (p : Path) (origin : Option Origin) :
    ((Call.enter p origin).run c).2.registry = c.registry := by
  simp only [Call.run, enter_run]
  cases he : c.enter p origin with
  | ok context => exact Context.registry_enter he
  | error failure => rfl

theorem extends_after (s : Session) (call : Call) :
    s.context.registry.Extends (s.after call).context.registry := by
  rw [context_after]
  cases call with
  | enter p origin =>
    rw [registry_enter]
    exact .refl _
  | leave => exact .refl _
  | register p name includer => exact .register _ _ _ _
  | expand o out source =>
    rw [Call.run, outcome_snd]
    exact expand_grows o source { out, context := s.context }

theorem descends_after (h : s.context.registry.Descends) (hcall : call.Backed s.context) :
    (s.after call).context.registry.Descends := by
  rw [context_after]
  cases call with
  | enter p origin =>
    rw [registry_enter]
    exact h
  | leave => exact h
  | register p name includer => exact h.register p name hcall
  | expand o out source =>
    rw [Call.run, outcome_snd]
    exact descends_expand o source h

theorem extends_foldl (s : Session) (calls : List Call) :
    s.context.registry.Extends (calls.foldl after s).context.registry := by
  induction calls generalizing s with
  | nil => exact .refl _
  | cons call calls ih => exact (extends_after s call).trans (ih (s.after call))

theorem descends_foldl {calls : List Call} (h : s.context.registry.Descends)
    (hcalls : s.Backed calls) : (calls.foldl after s).context.registry.Descends := by
  induction calls generalizing s with
  | nil => exact h
  | cons call calls ih => exact ih (descends_after h hcalls.1) hcalls.2

theorem registry_run_concat (c : Context) (calls : List Call) (p : Path) (name : String)
    (includer : Option Nat) : (run c (calls ++ [.register p name includer])).context.registry =
      ((run c calls).context.registry.register p name includer).2 := by
  rw [run, List.foldl_append]
  rfl

end Session

/-- On a context that is empty at first, calls in any order leave all links downwards if registrations
name none but known includers; a number that a registration gives is known from then on. So from every
file there is one way up, which is over by itself after as many files as the number of the file at most,
and a translation is no longer than the files are many. -/
theorem session_links_descend {c : Context} (hempty : c.registry = {}) {calls : List Session.Call}
    (hcalls : Session.Backed ⟨c, []⟩ calls) :
    let r := (Session.run c calls).context.registry
    (∀ i file includer, r.get? i = some file → file.includer = some includer → includer < i) ∧
      (∀ earlier p name includer later, calls = earlier ++ .register p name includer :: later →
        ((Session.run c earlier).context.register p name includer).1 < r.size) ∧
      (∀ k, ∃ numbers, r.Ascent k numbers) ∧
      ∀ line, (r.translate line).length ≤ max 1 r.size ∧
        (r.translate line = [] ∨ r.translate line = [Text.trim line] ∨
          ∃ k numbers first, r.Climbs (r.link? k) numbers ∧
            r.translate line = first :: (numbers.filterMap r.get?).map Registry.includedFrom) := by
  intro r
  have hstart : Registry.Descends c.registry := by
    intro i file includer hfile
    simp [hempty, Registry.get?] at hfile
  have hdown : r.Descends := Session.descends_foldl hstart hcalls
  refine ⟨hdown, ?_, hdown.exists_ascent, hdown.translate_climbs⟩
  rintro earlier p name includer later rfl
  have hgrown : ((Session.run c earlier).context.register p name includer).2.registry.Extends r := by
    simp only [r, Session.run, List.foldl_append]
    exact Session.extends_foldl ((Session.run c earlier).after (.register p name includer)) later
  exact Nat.lt_of_lt_of_le (Registry.lt_size_register _ p name includer) hgrown.size_le

/-- A source that fails leaves its files. One of them is named as the includer of another file, and one
is registered a second time, from an includer with a larger number. -/
theorem session_links_descend_sample :
    let c : Context := { root := ⟨"/s"⟩, maxDepth := 9 }
    let calls : List Session.Call := [.expand (Sink.output .sample) {} "loop",
      .register ⟨"/x"⟩ "x" (some 2), .register ⟨"/s/./b"⟩ "b" (some 3)]
    let r := (Session.run c calls).context.registry
    Session.Backed ⟨c, []⟩ calls ∧ r.files.map (·.includer) = [none, some 0, some 1, some 2] ∧
      (∃ numbers, r.Ascent 3 numbers) ∧
      r.translate "ERROR: 3:1: 'x' : bad" = ["ERROR: x:1: 'x' : bad", "       (included from lib)",
        "       (included from b)", "       (included from loop)"] := by
  intro c
  have hempty : c.registry = {} := rfl
  have hfirst : Session.Backed ⟨c, []⟩ [.expand (Sink.output .sample) {} "loop"] := ⟨trivial, trivial⟩
  have hexpanded : (Session.run c [.expand (Sink.output .sample) {} "loop"]).context.registry =
      ⟨[⟨⟨"/s/loop"⟩, "loop", none⟩, ⟨⟨"/s/b"⟩, "b", some 0⟩, ⟨⟨"/s/lib"⟩, "lib", some 1⟩]⟩ := by
    decide +kernel
  -- What the expansion does is known now. It is not to be run again in the steps that follow.
  generalize Session.Call.expand (Sink.output .sample) {} "loop" = call at hfirst hexpanded ⊢
  clear_value c
  intro calls r
  have hregistered : (Session.run c [call, .register ⟨"/x"⟩ "x" (some 2)]).context.registry =
      ⟨[⟨⟨"/s/loop"⟩, "loop", none⟩, ⟨⟨"/s/b"⟩, "b", some 0⟩, ⟨⟨"/s/lib"⟩, "lib", some 1⟩,
        ⟨⟨"/x"⟩, "x", some 2⟩]⟩ := by
    refine (Session.registry_run_concat c [call] _ _ _).trans ?_
    rw [hexpanded]
    decide +kernel
  have hagain : r = ⟨[⟨⟨"/s/loop"⟩, "loop", none⟩, ⟨⟨"/s/b"⟩, "b", some 0⟩,
      ⟨⟨"/s/lib"⟩, "lib", some 1⟩, ⟨⟨"/x"⟩, "x", some 2⟩]⟩ := by
    refine (Session.registry_run_concat c [call, _] _ _ _).trans ?_
    rw [hregistered]
    decide +kernel
  have hknown : Session.Call.Backed (Session.run c [call]).context (.register ⟨"/x"⟩ "x" (some 2)) := by
    rw [Session.Call.Backed, hexpanded]
    simp [Registry.size]
  have hnew : Session.Call.Backed (Session.run c [call, .register ⟨"/x"⟩ "x" (some 2)]).context
      (.register ⟨"/s/./b"⟩ "b" (some 3)) := by
    rw [Session.Call.Backed, hregistered]
    simp [Registry.size]
  have hcalls : Session.Backed ⟨c, []⟩ calls := ⟨hfirst.1, hknown, hnew, trivial⟩
  obtain ⟨_, _, hascent, _⟩ := session_links_descend hempty hcalls
  refine ⟨hcalls, ?_, hascent 3, ?_⟩
  · rw [hagain]
    rfl
  · rw [hagain]
    decide +kernel

end GlslFlatten
