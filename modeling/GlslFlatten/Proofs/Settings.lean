import GlslFlatten.Config
import Mathlib.Data.List.Basic

/-!
Settings that are made one after another. The last one of a kind counts, but for the build directory:
one that is named counts only until the root moves away from it, that is, as long as it is not the
default directory of a root that is replaced later.
-/

namespace GlslFlatten

inductive Setting where
  | root (dir : Path)
  | buildDir (dir : Path)
  | maxDepth (depth : Nat)
  deriving DecidableEq, Repr

namespace Setting

def root? : Setting → Option Path
  | root dir => some dir
  | _ => none

def buildDir? : Setting → Option Path
  | buildDir dir => some dir
  | _ => none

def maxDepth? : Setting → Option Nat
  | maxDepth depth => some depth
  | _ => none

end Setting

namespace Config

def set (c : Config) : Setting → Config
  | .root dir => c.withRoot dir
  | .buildDir dir => c.withBuildDir dir
  | .maxDepth depth => c.withMaxDepth depth

def setAll (c : Config) (settings : List Setting) : Config := settings.foldl set c

variable {c : Config} {settings : List Setting}

theorem withRoot_of_default (h : c.buildDir.same (defaultBuildDir c.root) = true) (dir : Path) :
    c.withRoot dir = { c with root := dir, buildDir := defaultBuildDir dir } := by
  simp [withRoot, h]

theorem withRoot_of_named (h : c.buildDir.same (defaultBuildDir c.root) = false) (dir : Path) :
    c.withRoot dir = { c with root := dir } := by
  simp [withRoot, h]

theorem root_set (c : Config) (s : Setting) : (c.set s).root = s.root?.getD c.root := by
  cases s with
  | root dir =>
    simp only [set, withRoot]
    split <;> rfl
  | buildDir dir => rfl
  | maxDepth depth => rfl

theorem maxDepth_set (c : Config) (s : Setting) :
    (c.set s).maxDepth = s.maxDepth?.getD c.maxDepth := by
  cases s with
  | root dir =>
    simp only [set, withRoot]
    split <;> rfl
  | buildDir dir => rfl
  | maxDepth depth => rfl

/-- What single settings replace, the last of them determines. -/
theorem last_setAll {α : Type} {value : Config → α} {arg? : Setting → Option α}
    (h : ∀ c s, value (c.set s) = (arg? s).getD (value c)) (c : Config) (settings : List Setting) :
    value (c.setAll settings) = (settings.filterMap arg?).getLast?.getD (value c) := by
  induction settings generalizing c with
  | nil => rfl
  | cons s settings ih =>
    have hrest := ih (c.set s)
    rw [h] at hrest
    rw [setAll, List.foldl_cons, ← setAll, hrest, List.filterMap_cons]
    cases arg? s with
    | none => rfl
    | some a => simp [List.getLast?_cons]

theorem root_setAll (c : Config) (settings : List Setting) :
    (c.setAll settings).root = (settings.filterMap Setting.root?).getLast?.getD c.root :=
  last_setAll root_set c settings

theorem setAll_append (c : Config) (before after : List Setting) :
    c.setAll (before ++ after) = (c.setAll before).setAll after := List.foldl_append

/-- The roots that settings replace by others. -/
def replaced (c : Config) (settings : List Setting) : List Path :=
  (c.root :: settings.filterMap Setting.root?).dropLast

/-- The build directory is the default one. -/
def AtDefault (c : Config) : Prop := c.buildDir = defaultBuildDir c.root

theorem AtDefault.withRoot (h : c.buildDir.same (defaultBuildDir c.root) = true) (dir : Path) :
    (c.withRoot dir).AtDefault := by
  rw [withRoot_of_default h]
  rfl

/-- Unless it is named, the build directory stays the default one. -/
theorem AtDefault.setAll (h : c.AtDefault) (hs : settings.filterMap Setting.buildDir? = []) :
    (c.setAll settings).AtDefault := by
  induction settings generalizing c with
  | nil => exact h
  | cons s settings ih =>
    cases s with
    | buildDir dir => simp [Setting.buildDir?] at hs
    | maxDepth depth => exact ih h hs
    | root dir =>
      have hsame : c.buildDir.same (defaultBuildDir c.root) = true := by
        rw [h]
        exact Path.same_refl _
      exact ih (.withRoot hsame dir) hs

theorem replaced_root (c : Config) (dir : Path) (settings : List Setting) :
    c.replaced (.root dir :: settings) = c.root :: (c.withRoot dir).replaced settings := by
  have hroot : (c.withRoot dir).root = dir := root_set c (.root dir)
  simp [replaced, hroot, Setting.root?]

/-- A directory that is not the default one of any root that is replaced stays. -/
theorem buildDir_setAll (hs : settings.filterMap Setting.buildDir? = [])
    (h : ∀ root ∈ c.replaced settings, c.buildDir.same (defaultBuildDir root) = false) :
    (c.setAll settings).buildDir = c.buildDir := by
  induction settings generalizing c with
  | nil => rfl
  | cons s settings ih =>
    cases s with
    | buildDir dir => simp [Setting.buildDir?] at hs
    | maxDepth depth => exact ih (c := c.withMaxDepth depth) hs h
    | root dir =>
      rw [replaced_root] at h
      obtain ⟨hnamed, hlater⟩ := List.forall_mem_cons.mp h
      have hkept : (c.withRoot dir).buildDir = c.buildDir := by rw [withRoot_of_named hnamed]
      rw [← hkept] at hlater ⊢
      exact ih hs hlater

/-- A directory that is the default one of a root that is replaced moves with the root from then on. -/
theorem atDefault_setAll (hs : settings.filterMap Setting.buildDir? = [])
    (h : ∃ root ∈ c.replaced settings, c.buildDir.same (defaultBuildDir root) = true) :
    (c.setAll settings).AtDefault := by
  induction settings generalizing c with
  | nil => simp [replaced] at h
  | cons s settings ih =>
    cases s with
    | buildDir dir => simp [Setting.buildDir?] at hs
    | maxDepth depth => exact ih (c := c.withMaxDepth depth) hs h
    | root dir =>
      cases hdefault : c.buildDir.same (defaultBuildDir c.root) with
      | true => exact (AtDefault.withRoot hdefault dir).setAll hs
      | false =>
        rw [replaced_root] at h
        simp only [List.exists_mem_cons_iff, hdefault, Bool.false_eq_true, false_or] at h
        have hkept : (c.withRoot dir).buildDir = c.buildDir := by rw [withRoot_of_named hdefault]
        rw [← hkept] at h
        exact ih hs h

/-- The default settings but for those that are made. -/
def ofSettings (settings : List Setting) : Config := ({} : Config).setAll settings

/-- The last root and the last depth count. The build directory is the default one of the last root,
unless one is named: then the last one that is named counts, if it is not the default directory of a
root that is replaced later. -/
theorem ofSettings_last (settings : List Setting) :
    let c := ofSettings settings
    c.root = (settings.filterMap Setting.root?).getLast?.getD ⟨"glshaders"⟩ ∧
      c.maxDepth = (settings.filterMap Setting.maxDepth?).getLast?.getD 100 ∧
      (settings.filterMap Setting.buildDir? = [] → c.buildDir = c.root.join ⟨"build"⟩) ∧
      ∀ before dir after, settings = before ++ .buildDir dir :: after →
        after.filterMap Setting.buildDir? = [] →
        let replaced := (ofSettings before).replaced after
        ((∀ root ∈ replaced, dir.same (root.join ⟨"build"⟩) = false) → c.buildDir = dir) ∧
        ((∃ root ∈ replaced, dir.same (root.join ⟨"build"⟩) = true) →
          c.buildDir = c.root.join ⟨"build"⟩) := by
  have hdefault : AtDefault {} := by
    unfold AtDefault
    decide +kernel
  refine ⟨root_setAll {} settings, last_setAll maxDepth_set {} settings, hdefault.setAll, ?_⟩
  rintro before dir after rfl hafter
  have hnamed : ofSettings (before ++ .buildDir dir :: after) =
      ((ofSettings before).withBuildDir dir).setAll after := by
    rw [ofSettings, setAll_append]
    rfl
  rw [hnamed]
  constructor
  · intro hkept
    exact buildDir_setAll (c := (ofSettings before).withBuildDir dir) hafter hkept
  · intro hmoved
    exact atDefault_setAll (c := (ofSettings before).withBuildDir dir) hafter hmoved

/-- A directory that is named before the root is set stays where it is. -/
theorem ofSettings_last_sample :
    let settings : List Setting := [.buildDir ⟨"b"⟩, .buildDir ⟨"out"⟩, .maxDepth 8, .root ⟨"shaders"⟩]
    (ofSettings settings).buildDir = ⟨"out"⟩ ∧ (ofSettings settings).root = ⟨"shaders"⟩ ∧
      (ofSettings settings).maxDepth = 8 := by
  intro settings
  obtain ⟨hroot, hdepth, _, hnamed⟩ := ofSettings_last settings
  obtain ⟨hkept, _⟩ := hnamed [.buildDir ⟨"b"⟩] ⟨"out"⟩ [.maxDepth 8, .root ⟨"shaders"⟩] rfl rfl
  exact ⟨hkept (by decide +kernel), hroot, hdepth⟩

/-- A directory that is named, but is the default one of the root at that time, is not kept when the
root is set. -/
theorem ofSettings_moves_named :
    let settings : List Setting := [.buildDir ⟨"glshaders/build"⟩, .root ⟨"shaders"⟩]
    (settings.filterMap Setting.buildDir?).getLast? = some ⟨"glshaders/build"⟩ ∧
      (ofSettings settings).buildDir = ⟨"shaders/build"⟩ := by
  decide +kernel

end Config

end GlslFlatten
