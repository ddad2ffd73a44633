import GlslFlatten.Proofs.OpenFiles
import Mathlib.Data.List.Induction

/-!
Contexts that are shared by several calls, whatever becomes of each of them. A file that a directive
has asked for is on the stack above other files only, and not too far up; of the others nothing is known.
-/

namespace GlslFlatten

open Expansion

namespace Context

/-- What is done to a context, with a record of which open files a directive has asked for. -/
inductive Operation : Context × List Bool → Context × List Bool → Prop
  | enter {c c' : Context} {p : Path} {origin : Option Origin} (asked : List Bool) :
      c.enter p origin = .ok c' → Operation (c, asked) (c', asked ++ [origin.isSome])
  | leave (c : Context) (asked : List Bool) : Operation (c, asked) (c.leave, asked.dropLast)
  | register (c : Context) (asked : List Bool) (p : Path) (name : String) (includer : Option Nat) :
      Operation (c, asked) ((c.register p name includer).2, asked)

abbrev Operations : Context × List Bool → Context × List Bool → Prop :=
  Relation.ReflTransGen Operation

/-- Below a file that a directive has asked for there are other files, and fewer than may be open. -/
structure Checked (c : Context) (asked : List Bool) : Prop where
  length : asked.length = c.stack.length
  distinct : ∀ i p, asked[i]? = some true → c.stack[i]? = some p →
    ∀ q ∈ c.stack.take i, q.same p = false
  depth : ∀ i, asked[i]? = some true → i < c.maxDepth

variable {c c' : Context} {asked asked' : List Bool}

theorem of_enter {p : Path} {origin : Option Origin} (h : c.enter p origin = .ok c') :
    c' = { c with stack := c.stack ++ [p] } := by
  cases origin with
  | none => exact (Except.ok.inj h).symm
  | some o => exact (of_enter_some h).2.2

theorem isOpen_eq_true_iff {p : Path} : c.isOpen p = true ↔ ∃ q ∈ c.stack, q.same p = true :=
  List.any_eq_true

theorem isOpen_eq_false_iff {p : Path} : c.isOpen p = false ↔ ∀ q ∈ c.stack, q.same p = false := by
  simp [isOpen]

theorem leave_of_empty (h : c.stack = []) : c.leave = c := by
  rw [leave, h, List.dropLast_nil, ← h]

/-- The three ends of opening a file on behalf of a directive. -/
theorem enter_some_cases (c : Context) (p : Path) (o : Origin) :
    (c.isOpen p = true ∧ c.enter p (some o) =
      .error (.recursiveInclude (c.nameOf p) o.name o.line
        (" -> ".intercalate (c.stack.map c.nameOf ++ [c.nameOf p])))) ∨
    (c.isOpen p = false ∧ c.maxDepth ≤ c.stack.length ∧
      c.enter p (some o) = .error (.depthExceeded (c.nameOf p) o.name o.line c.maxDepth)) ∨
    (c.isOpen p = false ∧ c.stack.length < c.maxDepth ∧
      c.enter p (some o) = .ok { c with stack := c.stack ++ [p] }) := by
  rw [enter_some]
  cases hopen : c.isOpen p with
  | true => exact .inl ⟨rfl, if_pos rfl⟩
  | false =>
    right
    rcases Nat.lt_or_ge c.stack.length c.maxDepth with hlt | hge
    · exact .inr ⟨rfl, hlt, if_neg (Nat.not_le.mpr hlt)⟩
    · exact .inl ⟨rfl, hge, if_pos hge⟩

theorem maxDepth_of_operation {x y : Context × List Bool} (h : Operation x y) :
    y.1.maxDepth = x.1.maxDepth := by
  cases h with
  | enter asked h => rw [of_enter h]
  | leave => rfl
  | register => rfl

theorem maxDepth_of_operations {x y : Context × List Bool} (h : Operations x y) :
    y.1.maxDepth = x.1.maxDepth := by
  induction h with
  | refl => rfl
  | tail _ hs ih => rw [maxDepth_of_operation hs, ih]

namespace Checked

theorem start (h : c.stack = []) : Checked c [] where
  length := by rw [h, List.length_nil, List.length_nil]
  distinct := fun _ _ hi => by simp at hi
  depth := fun _ hi => by simp at hi

theorem enter (h : Checked c asked) {p : Path} {origin : Option Origin}
    (he : c.enter p origin = .ok c') : Checked c' (asked ++ [origin.isSome]) := by
  have hmarked : ∀ i, (asked ++ [origin.isSome])[i]? = some true →
      asked[i]? = some true ∨ i = c.stack.length ∧ origin.isSome = true := by
    intro i hi
    rw [← h.length]
    rcases Nat.lt_trichotomy i asked.length with hlt | rfl | hgt
    · rw [List.getElem?_append_left hlt] at hi
      exact .inl hi
    · rw [List.getElem?_concat_length] at hi
      exact .inr ⟨rfl, Option.some.inj hi⟩
    · rw [List.getElem?_eq_none (by rw [List.length_append]; exact hgt)] at hi
      cases hi
  obtain rfl := of_enter he
  refine ⟨by simp [h.length], fun i q hi hq => ?_, fun i hi => ?_⟩
  · rcases hmarked i hi with hold | ⟨rfl, horigin⟩
    · have hlt : i < c.stack.length := h.length ▸ (List.getElem?_eq_some_iff.mp hold).1
      simp only [List.getElem?_append_left hlt] at hq
      simp only [List.take_append_of_le_length (Nat.le_of_lt hlt)]
      exact h.distinct i q hold hq
    · obtain ⟨o, rfl⟩ := Option.isSome_iff_exists.mp horigin
      obtain rfl : p = q := by simpa using hq
      simp only [List.take_left]
      have hopen := (of_enter_some he).1
      simpa [isOpen] using hopen
  · rcases hmarked i hi with hold | ⟨rfl, horigin⟩
    · exact h.depth i hold
    · obtain ⟨o, rfl⟩ := Option.isSome_iff_exists.mp horigin
      exact (of_enter_some he).2.1

theorem leave (h : Checked c asked) : Checked c.leave asked.dropLast := by
  have hbelow : ∀ {i}, asked.dropLast[i]? = some true →
      asked[i]? = some true ∧ i < c.stack.length - 1 := by
    intro i hi
    have hlt := (List.getElem?_eq_some_iff.mp hi).1
    rw [List.length_dropLast] at hlt
    rw [List.getElem?_dropLast, if_pos hlt] at hi
    exact ⟨hi, h.length ▸ hlt⟩
  refine ⟨by simp [Context.leave, h.length], fun i p hi hp q hq => ?_, fun i hi => ?_⟩
  · obtain ⟨hold, hlt⟩ := hbelow hi
    simp only [Context.leave, List.getElem?_dropLast, if_pos hlt] at hp
    simp only [Context.leave, List.dropLast_eq_take, List.take_take] at hq
    rw [Nat.min_eq_left (Nat.le_of_lt hlt)] at hq
    exact h.distinct i p hold hp q hq
  · exact h.depth i (hbelow hi).1

theorem step (h : Checked c asked) (hs : Operation (c, asked) (c', asked')) : Checked c' asked' := by
  cases hs with
  | enter _ he => exact h.enter he
  | leave => exact h.leave
  | register => exact ⟨h.length, h.distinct, h.depth⟩

theorem run {x y : Context × List Bool} (h : Checked x.1 x.2) (hr : Operations x y) :
    Checked y.1 y.2 := by
  induction hr with
  | refl => exact h
  | tail _ hs ih => exact ih.step hs

end Checked

end Context

open Context

namespace Expansion

variable {σ : Type} {o : Output σ} {descend : String → Origin → Expand σ Unit}

/-- Whatever is opened on behalf of a directive is closed again, unless there is a failure. Then it
stays open. -/
def Nests (x : Expand σ Unit) : Prop :=
  ∀ (s : Progress σ) (asked : List Bool), match x s with
    | .ok _ s' => Operations (s.context, asked) (s'.context, asked)
    | .error _ s' => ∃ n, Operations (s.context, asked) (s'.context, asked ++ List.replicate n true)

namespace Nests

theorem of_context {x : Expand σ Unit} (h : ∀ s, (remains (x s)).context = s.context) : Nests x := by
  intro s asked
  have hs := h s
  cases hx : x s with
  | ok _ s' =>
    rw [hx] at hs
    simp only
    rw [← hs, remains]
  | error _ s' =>
    rw [hx] at hs
    refine ⟨0, ?_⟩
    rw [← hs, remains, List.replicate_zero, List.append_nil]

theorem emit (o : Output σ) (line : FlatLine) : Nests (emit o line) := by
  refine of_context fun s => ?_
  unfold Expansion.emit
  split <;> rfl

theorem bind {x : Expand σ Unit} {f : Unit → Expand σ Unit} (hx : Nests x) (hf : ∀ u, Nests (f u)) :
    Nests (x >>= f) := by
  intro s asked
  have hs := hx s asked
  rw [bind_run]
  cases he : x s with
  | error e s' =>
    rw [he] at hs
    exact hs
  | ok u s' =>
    rw [he] at hs
    have hs' := hf u s' asked
    simp only
    cases hf : f u s' with
    | ok _ s'' =>
      rw [hf] at hs'
      exact hs.trans hs'
    | error _ s'' =>
      rw [hf] at hs'
      obtain ⟨n, hn⟩ := hs'
      exact ⟨n, hs.trans hn⟩

theorem process (hd : ∀ path origin, Nests (descend path origin)) (file : OpenFile) (number : Nat)
    (line : Line) : Nests (process o descend file number line) := by
  cases line with
  | unreadable reason => exact of_context fun _ => rfl
  | malformed defect => exact of_context fun _ => rfl
  | copied text => exact emit o _
  | directive d => exact .bind (of_context fun _ => rfl) fun _ => .bind (hd _ _) fun _ => emit o _

theorem copyLines (hd : ∀ path origin, Nests (descend path origin)) (file : OpenFile) (limit : Nat)
    (reader : Reader) (number : Nat) : Nests (copyLines o descend file limit reader number) := by
  induction limit generalizing reader number with
  | zero => exact of_context fun _ => rfl
  | succ limit ih =>
    intro s asked
    rw [copyLines_run]
    cases (o.tree s.out).load file.loc with
    | error e => exact ⟨0, by simp only [List.replicate_zero, List.append_nil]; rfl⟩
    | ok content =>
      simp only
      cases reader.next content with
      | none => exact .refl
      | some next =>
        exact (process hd file number _).bind (fun _ => ih next.2 (number + 1)) s asked

theorem copyAll (hd : ∀ path origin, Nests (descend path origin)) (file : OpenFile) :
    Nests (copyAll o descend file) := by
  intro s asked
  rw [Expansion.copyAll, bind_run, load_run]
  cases (o.tree s.out).load file.loc with
  | error e => exact ⟨0, by simp only [List.replicate_zero, List.append_nil]; rfl⟩
  | ok content => exact copyLines hd file _ {} 1 s asked

end Nests

/-- A file that is open already is closed in the end, or stays open with those opened behind it. -/
theorem copyFile_operations (hd : ∀ path origin, Nests (descend path origin)) (file : OpenFile)
    (s : Progress σ) (asked : List Bool) (b : Bool) :
    match copyFile o descend file s with
    | .ok _ s' => Operations (s.context, asked ++ [b]) (s'.context, asked)
    | .error _ s' => ∃ n,
      Operations (s.context, asked ++ [b]) (s'.context, asked ++ b :: List.replicate n true) := by
  have hhead : Nests (head o file.index) := by
    unfold head
    split
    · exact .emit o _
    · exact .of_context fun _ => rfl
  have hcopied : Nests (note (file.name ++ " has file index " ++ toString file.index) >>= fun _ =>
      head o file.index >>= fun _ => copyAll o descend file) :=
    .bind (.of_context fun _ => rfl) fun _ => .bind hhead fun _ => .copyAll hd file
  have hs := hcopied s (asked ++ [b])
  have hsplit : copyFile o descend file = (note (file.name ++ " has file index " ++
      toString file.index) >>= fun _ => head o file.index >>= fun _ => copyAll o descend file) >>=
        fun _ => leave := by
    simp only [copyFile, bind_assoc]
  rw [hsplit, bind_run]
  generalize (note _ >>= fun _ => head o file.index >>= fun _ => copyAll o descend file) s = copied
    at hs ⊢
  cases copied with
  | error e s' =>
    obtain ⟨n, hn⟩ := hs
    exact ⟨n, by simpa using hn⟩
  | ok u s' =>
    have hleave := Operation.leave s'.context (asked ++ [b])
    rw [List.dropLast_concat] at hleave
    exact hs.tail hleave

theorem expandFile_operations (hd : ∀ path origin, Nests (descend path origin)) (path : String)
    (origin : Option Origin) (s : Progress σ) (asked : List Bool) :
    match expandFile o descend path origin s with
    | .ok _ s' => Operations (s.context, asked) (s'.context, asked)
    | .error _ s' => s'.context = s.context ∨ ∃ n,
      Operations (s.context, asked) (s'.context, asked ++ origin.isSome :: List.replicate n true) := by
  rw [expandFile_run]
  cases hr : Source.resolve (o.tree s.out) s.context.root path with
  | error e => exact .inl rfl
  | ok loc =>
    cases he : s.context.enter loc.path origin with
    | error failure =>
      simp only [he]
      exact .inl trivial
    | ok c =>
      simp only [he]
      have hopened : Operations (s.context, asked) ((c.register loc.path
          (s.context.nameOf loc.path) (origin.map (·.index))).2, asked ++ [origin.isSome]) :=
        .tail (.single (.enter asked he)) (.register _ _ _ _ _)
      generalize OpenFile.mk loc _ _ = file
      have hcopy := copyFile_operations (o := o) hd file { s with context := (c.register loc.path
        (s.context.nameOf loc.path) (origin.map (·.index))).2 } asked origin.isSome
      generalize copyFile o descend file _ = copied at hcopy ⊢
      cases copied with
      | ok u s' => exact hopened.trans hcopy
      | error e s' =>
        obtain ⟨n, hn⟩ := hcopy
        exact .inr ⟨n, hopened.trans hn⟩

theorem expandWithin_nests (o : Output σ) (levels : Nat) (path : String) (origin : Origin) :
    Nests (expandWithin o levels path (some origin)) := by
  induction levels generalizing path origin with
  | zero => exact .of_context fun _ => rfl
  | succ levels ih =>
    intro s asked
    have hfile := expandFile_operations (o := o) (fun path origin => ih path origin) path
      (some origin) s asked
    rw [expandWithin]
    generalize expandFile o _ path (some origin) s = expanded at hfile ⊢
    cases expanded with
    | ok u s' => exact hfile
    | error e s' =>
      rcases hfile with hsame | ⟨n, hn⟩
      · exact ⟨0, by rw [hsame, List.replicate_zero, List.append_nil]⟩
      · exact ⟨n + 1, hn⟩

/-- The record of `n` files that an expansion has left open: its source, which no directive has asked
for, and files that directives have asked for. -/
def leftOpen : (n : Nat) → List Bool
  | 0 => []
  | n + 1 => false :: List.replicate n true

theorem length_leftOpen (n : Nat) : (leftOpen n).length = n := by
  cases n with
  | zero => rfl
  | succ n => rw [leftOpen, List.length_cons, List.length_replicate]

theorem expand_operations {σ : Type} (o : Output σ) (source : String) (s : Progress σ)
    (asked : List Bool) : ∃ n,
      Operations (s.context, asked) ((remains (expand o source s)).context, asked ++ leftOpen n) := by
  simp only [expand, bind_run, get_run, expandWithin]
  have hfile := expandFile_operations (o := o)
    (fun path origin => expandWithin_nests o (o.tree s.out).entries.length path origin) source none s
    asked
  generalize expandFile o _ source none s = expanded at hfile ⊢
  have hnone : asked ++ leftOpen 0 = asked := List.append_nil asked
  cases expanded with
  | ok u s' => exact ⟨0, hnone.symm ▸ hfile⟩
  | error e s' =>
    rcases hfile with hsame | ⟨n, hn⟩
    · refine ⟨0, ?_⟩
      rw [hnone, remains, hsame]
    · exact ⟨n + 1, hn⟩

end Expansion

/-- A context that several calls share, and the record of its open files. -/
structure Session where
  context : Context
  asked : List Bool := []

namespace Session

inductive Call : Type 1
  | enter (p : Path) (origin : Option Origin)
  | leave
  | register (p : Path) (name : String) (includer : Option Nat)
  | expand {σ : Type} (o : Output σ) (out : σ) (source : String)

def outcome {σ α : Type} : EStateM.Result Failure (Progress σ) α → Option Failure × Context
  | .ok _ s => (none, s.context)
  | .error failure s => (some failure, s.context)

/-- The failure of a call, if it is one, and the context behind it. -/
def Call.run (c : Context) : Call → Option Failure × Context
  | .enter p origin => outcome (Expansion.enter p origin { out := (), context := c })
  | .leave => outcome (Expansion.leave { out := (), context := c })
  | .register p name includer =>
    outcome (Expansion.register p name includer { out := (), context := c })
  | .expand o out source => outcome (GlslFlatten.expand o source { out, context := c })

def after (s : Session) (call : Call) : Session :=
  let (failure, context) := call.run s.context
  match call with
  | .enter _ origin => ⟨context, if failure = none then s.asked ++ [origin.isSome] else s.asked⟩
  | .leave => ⟨context, s.asked.dropLast⟩
  | .register .. => ⟨context, s.asked⟩
  | .expand .. => ⟨context, s.asked ++ leftOpen (context.depth - s.context.depth)⟩

/-- Calls one after another, on a context without open files. -/
def run (c : Context) (calls : List Call) : Session := calls.foldl after ⟨c, []⟩

variable {c : Context} {s : Session}

theorem outcome_snd {σ α : Type} (r : EStateM.Result Failure (Progress σ) α) :
    (outcome r).2 = (remains r).context := by
  cases r <;> rfl

/-- The record is kept right by every call. -/
theorem operations_after (h : Checked s.context s.asked) (call : Call) :
    Operations (s.context, s.asked) ((s.after call).context, (s.after call).asked) := by
  cases call with
  | enter p origin =>
    simp only [after, Call.run, enter_run]
    cases he : s.context.enter p origin with
    | ok context => exact .single (.enter _ he)
    | error failure => exact .refl
  | leave => exact .single (.leave _ _)
  | register p name includer => exact .single (.register _ _ _ _ _)
  | expand o out source =>
    obtain ⟨n, hn⟩ := expand_operations o source { out, context := s.context } s.asked
    have hlength := (h.run hn).length
    rw [List.length_append, length_leftOpen, h.length] at hlength
    simp only [after, Call.run, outcome_snd, Context.depth]
    rw [← hlength, Nat.add_sub_cancel_left]
    exact hn

theorem operations_run (h : c.stack = []) (calls : List Call) :
    Operations (c, []) ((run c calls).context, (run c calls).asked) := by
  induction calls using List.reverseRecOn with
  | nil => exact .refl
  | append_singleton calls call ih =>
    rw [run, List.foldl_append]
    exact ih.trans (operations_after ((Checked.start h).run ih) call)

end Session

/-- After any calls on a shared context the files that directives have asked for are checked. The next
file that a directive asks for is refused if it is open, or else if as many files are open as may be;
a refusal changes nothing, and neither does leaving when no file is open. -/
theorem session_checked {c : Context} (hempty : c.stack = []) (calls : List Session.Call) :
    let s := Session.run c calls
    Operations (c, []) (s.context, s.asked) ∧ Checked s.context s.asked ∧
      s.context.maxDepth = c.maxDepth ∧
      (∀ (p : Path) (o : Origin),
        let name := s.context.nameOf p
        let stack := " -> ".intercalate (s.context.stack.map s.context.nameOf ++ [name])
        (s.context.enter p (some o) = .error (.recursiveInclude name o.name o.line stack) ↔
            ∃ q ∈ s.context.stack, q.same p = true) ∧
          (s.context.enter p (some o) = .error (.depthExceeded name o.name o.line c.maxDepth) ↔
            (∀ q ∈ s.context.stack, q.same p = false) ∧ c.maxDepth ≤ s.context.stack.length) ∧
          (s.context.enter p (some o) = .ok { s.context with stack := s.context.stack ++ [p] } ↔
            (∀ q ∈ s.context.stack, q.same p = false) ∧ s.context.stack.length < c.maxDepth)) ∧
      (∀ p origin, ((Session.Call.enter p origin).run s.context).1 ≠ none →
        s.after (.enter p origin) = s) ∧
      (s.context.stack = [] → s.after .leave = s) := by
  intro s
  have hoperations := Session.operations_run hempty calls
  have hchecked := (Checked.start hempty).run hoperations
  have hdepth : s.context.maxDepth = c.maxDepth := maxDepth_of_operations hoperations
  refine ⟨hoperations, hchecked, hdepth, fun p o => ?_, fun p origin hfails => ?_, fun hnone => ?_⟩
  · intro name stack
    rw [← isOpen_eq_true_iff, ← isOpen_eq_false_iff, ← hdepth]
    rcases enter_some_cases s.context p o with ⟨hopen, he⟩ | ⟨hopen, hdeep, he⟩ | ⟨hopen, hroom, he⟩
    · simp [he, hopen, name, stack]
    · simp [he, hopen, name, hdeep]
    · simp [he, hopen, hroom]
  · simp only [Session.Call.run, enter_run] at hfails
    simp only [Session.after, Session.Call.run, enter_run]
    cases he : s.context.enter p origin with
    | ok context => simp [he, Session.outcome] at hfails
    | error failure => rfl
  · have hasked : s.asked = [] := by
      rw [← List.length_eq_zero_iff, hchecked.length, hnone, List.length_nil]
    change Session.mk s.context.leave s.asked.dropLast = s
    rw [leave_of_empty hnone, hasked, List.dropLast_nil, ← hasked]

/-- A source is left open with a file that it includes, and then opened again above itself. -/
theorem session_checked_sample :
    let c : Context := { root := ⟨"/s"⟩, maxDepth := 2 }
    let s := Session.run c [.expand (Sink.output .sample) {} "main", .enter ⟨"/s/main"⟩ none]
    s.context.stack = [⟨"/s/main"⟩, ⟨"/s/b"⟩, ⟨"/s/main"⟩] ∧ s.asked = [false, true, false] ∧
      Checked s.context s.asked ∧
      s.context.enter ⟨"/s/./b"⟩ (some ⟨0, "main", 1⟩) =
        .error (.recursiveInclude "b" "main" 1 "main -> b -> main -> b") ∧
      s.context.enter ⟨"/s/lib"⟩ (some ⟨0, "main", 3⟩) = .error (.depthExceeded "lib" "main" 3 2) ∧
      (s.after (.enter ⟨"/s/lib"⟩ (some ⟨0, "main", 3⟩))).context = s.context := by
  intro c s
  obtain ⟨_, hchecked, _, hrefused, hsame, _⟩ := session_checked (c := c) rfl
    [.expand (Sink.output .sample) {} "main", .enter ⟨"/s/main"⟩ none]
  have hstack : s.context.stack = [⟨"/s/main"⟩, ⟨"/s/b"⟩, ⟨"/s/main"⟩] := by decide +kernel
  have hdeep := (hrefused ⟨"/s/lib"⟩ ⟨0, "main", 3⟩).2.1.mpr (by decide +kernel)
  have hopen := (hrefused ⟨"/s/./b"⟩ ⟨0, "main", 1⟩).1.mpr (by decide +kernel)
  refine ⟨hstack, by decide +kernel, hchecked, hopen.trans (by decide +kernel),
    hdeep.trans (by decide +kernel), ?_⟩
  rw [hsame ⟨"/s/lib"⟩ (some ⟨0, "main", 3⟩) (by decide +kernel)]

end GlslFlatten
