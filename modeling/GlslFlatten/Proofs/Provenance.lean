import GlslFlatten.Flatten
import GlslFlatten.Proofs.Attribution
import GlslFlatten.Proofs.FileOutput

/-!
Provenance of flattened text. What a compiler reads from the output, with the numbers in it looked up
in the registry, is the splice of the source in the tree before the output was created.
-/

namespace GlslFlatten

open Text Traversal Expansion

variable {t made : Tree} {c : Context} {source : String} {loc target : Location} {m : State}
  {r : Registry} {ls : List FlatLine}

/-- An expansion that ends well has written the expansion of the whole source. -/
theorem emitted_of_end (hc : c.Fresh) (hr : Source.resolve t c.root source = .ok loc)
    (hrun : Run t (start c loc) m) (hend : m.line? t = none) (ho : m.outer = []) :
    Emitted t c.root m.context.registry loc (t.linesOf loc).length m.lines := by
  have hloc := (Sound.of_run hc hr hrun).source_loc ho
  have hemitted := OpenEmitted.run hc hr hrun
  rw [State.frames, ho] at hemitted
  generalize m.lines = ls at hemitted
  cases hemitted with
  | source hown =>
    rw [hloc] at hown
    have hle := Tree.line?_eq_none_iff.mp hend
    rw [hloc] at hle
    rwa [Nat.le_antisymm hown.le_length hle] at hown
  | included houter _ => cases houter

theorem ne_of_indexOf? (hother : ∀ e ∈ r.files, e.path.same target.path = false) {g : Location}
    {j : Nat} (hj : r.indexOf? g.path = some j) : g ≠ target := by
  rintro rfl
  obtain ⟨hlt, hsame, _⟩ := List.findIdx?_eq_some_iff_getElem.mp hj
  rw [hother _ (List.getElem_mem hlt)] at hsame
  cases hsame

theorem Tree.Differs.linesOf (hd : t.Differs made target) {g : Location} (hg : g ≠ target) :
    made.linesOf g = t.linesOf g := by
  rw [Tree.linesOf, Tree.load, hd.others g hg, ← Tree.load, ← Tree.linesOf]

/-- The registered files are not the output, so that it makes no difference to them. -/
theorem Emitted.of_differs {root : Path} {f : Location} {n i : Nat} (h : Emitted made root r f n ls)
    (hd : t.Differs made target) (hother : ∀ e ∈ r.files, e.path.same target.path = false)
    (hi : r.indexOf? f.path = some i) : Emitted t root r f n ls :=
  h.transfer (fun _ _ hj => hd.linesOf (ne_of_indexOf? hother hj))
    (fun _ _ _ hr hj => hd.resolve (ne_of_indexOf? hother hj) hr) hi

/-- Reading the lines back from the bytes of the output. -/
theorem read_bytes (hn : ∀ l ∈ ls, '\n' ∉ l.text.toList)
    (hmark : ∀ text, .copied text ∈ ls → ¬ "#line".toList <+: text.toList) :
    ∃ cs, Utf8.decode? (FlatLine.bytes ls) = some cs ∧
      (lines '\n' cs).map (fun l => FlatLine.ofText (.ofList l)) = ls := by
  refine ⟨_, Utf8.decode?_encode _, ?_⟩
  have hlines : lines '\n' (ls.flatMap fun l => l.text.toList ++ ['\n']) =
      ls.map fun l => l.text.toList := by
    have hn' : ∀ l ∈ ls.map (fun l => l.text.toList), '\n' ∉ l := by simpa using hn
    have := lines_flatMap hn'
    rwa [List.flatMap_map] at this
  rw [hlines, List.map_map]
  conv_rhs => rw [← List.map_id ls]
  refine List.map_congr_left fun l hl => ?_
  simp only [Function.comp_apply, String.ofList_toList, id_eq]
  exact FlatLine.ofText_text l fun text he => hmark text (he ▸ hl)

/-- The lines of an expansion hold no line feeds. -/
theorem Emitted.newline_not_mem {root : Path} {f : Location} {n : Nat} (h : Emitted t root r f n ls) :
    ∀ l ∈ ls, '\n' ∉ l.text.toList := by
  induction h with
  | nil =>
    intro l hl
    cases hl
  | copied _ hl ih =>
    intro l hm
    rcases List.mem_append.mp hm with hm | hm
    · exact ih l hm
    · rw [List.mem_singleton.mp hm]
      exact newline_not_mem_copied hl
  | included _ _ _ _ _ _ ih ih' =>
    intro l hm
    simp only [List.mem_append, List.mem_cons, List.not_mem_nil, or_false] at hm
    rcases hm with hm | (rfl | hm) | rfl
    · exact ih l hm
    · exact FlatLine.newline_not_mem_marker _ _
    · exact ih' l hm
    · exact FlatLine.newline_not_mem_marker _ _

/-- Lines that are copied are lines of the splice. -/
theorem Emitted.text_mem_splice {root : Path} {f : Location} {n i : Nat}
    (h : Emitted t root r f n ls) (hp : r.Proper) (ha : root.isAbsolute = true) (hf : f.Plain)
    (hi : r.indexOf? f.path = some i) {text : String} (hm : .copied text ∈ ls) :
    ∃ xs, Splice t root f n xs ∧ text ∈ xs.map (·.text) := by
  obtain ⟨xs, hs, hread, _⟩ := h.ascribed hp ha hf hi
  obtain ⟨q, hq⟩ := exists_ascribe hm ⟨i, 1⟩
  have hplace := List.mem_map_of_mem (f := Emitted.place r) hq
  rw [hread] at hplace
  obtain ⟨x, hx, ho⟩ := List.mem_map.mp hplace
  exact ⟨xs, hs, List.mem_map.mpr ⟨x, hx, congrArg (·.2.2) ho⟩⟩

/-- An expansion into a created file follows a walk from the source to its end, and leaves there what
the walk has written. -/
theorem walk_of_flatten {config : Config} {output : Path}
    (hc : Context.start t config = .ok c) (hm : t.create output = .ok (target, made))
    (hx : (flatten t config source output).result = .ok r)
    (hother : ∀ e ∈ r.files, e.path.same target.path = false) :
    ∃ loc m, Source.resolve t c.root source = .ok loc ∧ Source.resolve made c.root source = .ok loc ∧
      Run made (start c loc) m ∧ m.context.registry = r ∧ r.indexOf? loc.path = some 0 ∧
      Emitted t c.root r loc (t.linesOf loc).length m.lines ∧
      ∀ {content}, made.get? target = some (.file content) →
        (flatten t config source output).tree.content? target = some (FlatLine.bytes m.lines) := by
  have hfresh := (Context.fresh_of_start hc).1
  have hd := (Tree.differs_of_create hm).1
  obtain ⟨s, f, he, hflush, hx, htree⟩ := of_flatten_ok hc hm hx
  rw [htree]
  cases hr : Source.resolve made c.root source with
  | error failure =>
    have := expand_of_unresolved (o := FileSink.output)
      (s := { out := { tree := made, target }, context := c }) hr
    rw [he] at this
    cases this
  | ok loc =>
    have hends := expand_ends (s := { out := { tree := made, target }, context := c })
      (FileSink.serves made target c.root) (FileSink.keeps_created hm) rfl hr
      (by rw [he, remains, hx]; exact hother)
    rw [he] at hends
    obtain ⟨m, hrun, hend, houter, hcontext, hkeeps⟩ := hends
    have hs := Sound.of_run hfresh hr hrun
    have hreg : m.context.registry = r := by
      rw [← hx, hcontext]
      rfl
    have hemitted := emitted_of_end hfresh hr hrun hend houter
    have hplain := Source.plain_of_resolve hfresh.absolute hr
    have hzero := hs.proper.indexOf?_of_get? hplain hs.first rfl
    rw [hreg] at hemitted hzero
    have hloc := ne_of_indexOf? hother hzero
    rw [hd.linesOf hloc] at hemitted
    refine ⟨loc, m, hd.resolve hloc hr, rfl, hrun, hreg, hzero,
      hemitted.of_differs hd hother hzero, fun hfile => ?_⟩
    obtain ⟨f', hflush', hcontent⟩ := hkeeps.content? hfile
    rw [hflush] at hflush'
    cases hflush'
    exact hcontent

/-- What an expansion into a created file leaves there. -/
theorem emitted_of_flatten {config : Config} {output : Path}
    (hc : Context.start t config = .ok c) (hm : t.create output = .ok (target, made))
    (hx : (flatten t config source output).result = .ok r)
    (hother : ∀ e ∈ r.files, e.path.same target.path = false) :
    ∃ loc ls, Source.resolve t c.root source = .ok loc ∧ r.Proper ∧
      r.indexOf? loc.path = some 0 ∧ Emitted t c.root r loc (t.linesOf loc).length ls ∧
      ∀ {content}, made.get? target = some (.file content) →
        (flatten t config source output).tree.content? target = some (FlatLine.bytes ls) := by
  obtain ⟨loc, m, hr, hr', hrun, hreg, hzero, hemitted, hcontent⟩ := walk_of_flatten hc hm hx hother
  have hs := Sound.of_run (Context.fresh_of_start hc).1 hr' hrun
  exact ⟨loc, m.lines, hr, hreg ▸ hs.proper, hzero, hemitted, hcontent⟩

/-- The text of an output that is not a device, read from its beginning with the numbers of files
looked up in the registry, is the splice of the source: each line that is no directive, without the
blanks at its end, in the file and at the line that it stands in. -/
theorem flatten_provenance {config : Config} {output : Path}
    (hc : Context.start t config = .ok c) (hm : t.create output = .ok (target, made))
    (hx : (flatten t config source output).result = .ok r)
    (hother : ∀ e ∈ r.files, e.path.same target.path = false)
    (hmark : ∀ loc xs, Source.resolve t c.root source = .ok loc →
      Splice t c.root loc (t.linesOf loc).length xs → ∀ x ∈ xs, ¬ "#line".toList <+: x.text.toList) :
    ∃ loc xs, Source.resolve t c.root source = .ok loc ∧
      Splice t c.root loc (t.linesOf loc).length xs ∧
      ((∃ refusal, t.get? target = some (.device refusal)) ∨ ∃ bytes cs,
        (flatten t config source output).tree.content? target = some bytes ∧
        Utf8.decode? bytes = some cs ∧
        (ascribe ⟨0, 1⟩ ((lines '\n' cs).map fun l => FlatLine.ofText (.ofList l))).map
          (Emitted.place r) = xs.map Emitted.origin) := by
  have hfresh := (Context.fresh_of_start hc).1
  obtain ⟨loc, ls, hr, hp, hzero, hemitted, hcontent⟩ := emitted_of_flatten hc hm hx hother
  have hplain := Source.plain_of_resolve hfresh.absolute hr
  obtain ⟨xs, hs, hread, _⟩ := hemitted.ascribed hp hfresh.absolute hplain hzero
  have hmark' : ∀ text, .copied text ∈ ls → ¬ "#line".toList <+: text.toList := by
    intro text hm
    obtain ⟨ys, hs', htext⟩ := hemitted.text_mem_splice hp hfresh.absolute hplain hzero hm
    obtain ⟨x, hx, rfl⟩ := List.mem_map.mp htext
    exact hmark loc ys hr hs' x hx
  obtain ⟨cs, hd, hlines⟩ := read_bytes hemitted.newline_not_mem hmark'
  refine ⟨loc, xs, hr, hs, ?_⟩
  rcases (Tree.differs_of_create hm).2 with hfile | ⟨hdevice, rfl⟩
  · refine .inr ⟨_, cs, hcontent hfile, hd, ?_⟩
    rw [hlines, hread]
  · exact .inl hdevice

/-- The first line of the splice stands in the file that is included first. -/
theorem splice_sample : Splice .sample ⟨"/s"⟩ ["s", "main"] (Tree.sample.linesOf ["s", "main"]).length
    [⟨["s", "lib"], 1, "one"⟩, ⟨["s", "b"], 2, "two"⟩, ⟨["s", "main"], 2, "void main"⟩,
      ⟨["s", "lib"], 1, "one"⟩] := by
  have hlib : (Tree.sample.linesOf ["s", "lib"]).length = 1 := by decide +kernel
  have hb : (Tree.sample.linesOf ["s", "b"]).length = 2 := by decide +kernel
  have hmain : (Tree.sample.linesOf ["s", "main"]).length = 3 := by decide +kernel
  have lib : Splice .sample ⟨"/s"⟩ ["s", "lib"] (Tree.sample.linesOf ["s", "lib"]).length
      [⟨["s", "lib"], 1, "one"⟩] := by
    rw [hlib]
    exact .copied .nil (by decide +kernel)
  have b : Splice .sample ⟨"/s"⟩ ["s", "b"] (Tree.sample.linesOf ["s", "b"]).length
      [⟨["s", "lib"], 1, "one"⟩, ⟨["s", "b"], 2, "two"⟩] := by
    rw [hb]
    refine .copied (.included (d := ⟨1, 10, "lib", .quotes⟩) .nil ?_ ?_ lib) ?_
    all_goals decide +kernel
  have first : Splice .sample ⟨"/s"⟩ ["s", "main"] 1
      [⟨["s", "lib"], 1, "one"⟩, ⟨["s", "b"], 2, "two"⟩] := by
    refine .included (d := ⟨1, 10, "b", .angles⟩) .nil ?_ ?_ b
    all_goals decide +kernel
  rw [hmain]
  refine .included (d := ⟨3, 10, "lib", .angles⟩) (.copied first ?_) ?_ ?_ lib
  all_goals decide +kernel

/-- The output is read back as the splice, which has the lines of one file twice. -/
theorem flatten_provenance_sample :
    let read := flatten .sample { root := ⟨"/s"⟩ } "main" ⟨"/out"⟩
    ∃ r bytes cs, read.result = .ok r ∧ read.tree.content? ["out"] = some bytes ∧
      Utf8.decode? bytes = some cs ∧
      (ascribe ⟨0, 1⟩ ((lines '\n' cs).map fun l => FlatLine.ofText (.ofList l))).map
        (Emitted.place r) = [(some ⟨"/s/lib"⟩, 1, "one"), (some ⟨"/s/b"⟩, 2, "two"),
          (some ⟨"/s/main"⟩, 2, "void main"), (some ⟨"/s/lib"⟩, 1, "one")] := by
  intro read
  let c : Context := { root := ⟨"/s"⟩, maxDepth := 100 }
  have hc : Context.start .sample { root := ⟨"/s"⟩ } = .ok c := by decide +kernel
  have hm : Tree.sample.create ⟨"/out"⟩ = .ok (["out"], Tree.sample.put ["out"] (.file [])) := by
    decide +kernel
  have hnone : Tree.sample.get? ["out"] = none := by decide +kernel
  have hr : Source.resolve .sample c.root "main" = .ok ["s", "main"] := by decide +kernel
  have hx : read.result = .ok ⟨[⟨⟨"/s/main"⟩, "main", none⟩, ⟨⟨"/s/b"⟩, "b", some 0⟩,
      ⟨⟨"/s/lib"⟩, "lib", some 1⟩]⟩ := by decide +kernel
  have hmark : ∀ loc xs, Source.resolve .sample c.root "main" = .ok loc →
      Splice .sample c.root loc (Tree.sample.linesOf loc).length xs →
      ∀ x ∈ xs, ¬ "#line".toList <+: x.text.toList := by
    intro loc xs hloc hs
    cases hr.symm.trans hloc
    rw [hs.unique splice_sample]
    decide +kernel
  obtain ⟨loc, xs, hloc, hs, hread⟩ := flatten_provenance hc hm hx (by decide +kernel) hmark
  cases hr.symm.trans hloc
  rw [hs.unique splice_sample] at hread
  obtain ⟨bytes, cs, hbytes, hdecode, hread⟩ := hread.resolve_left (by simp [hnone])
  exact ⟨_, bytes, cs, hx, hbytes, hdecode, hread.trans (by decide +kernel)⟩

end GlslFlatten
