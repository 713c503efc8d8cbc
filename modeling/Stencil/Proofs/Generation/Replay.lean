import Stencil.Proofs.Generation.Footprint
import Stencil.Proofs.Generation.Outputs

/-! # Steps that are repeated

A second run goes through the files that a first one has left. Step by step it does what the first
run did, for it reads the same files: what the first run has made or written is not among them, and
directories that it has made let no path lead to a file, unless the path climbs from them. The
engines may be others, if they answer alike what the first run asks.
-/

namespace Stencil

open Generating FileSystem

section Steps

variable {α β γ : Type} {first last fs other : FileSystem} {outs : Place → Prop} {q : Path}
  {x y : Generating α} {w w₁ w₂ : World}

/-- The files come after the first ones in a run. -/
structure Since (first fs : FileSystem) : Prop where
  isTree : fs.IsTree
  evolves : Evolves (fun _ => True) first fs

/-- What is read at the path stays the same from the first files of a run to the last: the run
writes elsewhere, and makes no directories from which the path climbs to a file. -/
structure Undisturbed (first last : FileSystem) (outs : Place → Prop) (q : Path) : Prop where
  apart : ∀ place, last.locate q = .ok place → ¬ outs place
  not_climbs : ¬ ClimbsToFile first last q

theorem Undisturbed.sameFile (h : Undisturbed first last outs q) (hs : Since first fs)
    (he : Evolves outs fs last) (hm : Mirrors outs fs last other) : SameFile fs other q := by
  have hearlier : ¬ ClimbsToFile fs last q := fun hc => h.not_climbs (hc.of_earlier hs.evolves)
  exact (he.sameFile hs.isTree h.apart hearlier).trans (hm.sameFile he h.apart)

/-- If the step succeeds in a run between the two file systems, the other one does the same in a
second run. That the files come after the first ones is passed on forwards, that they come before
the last ones backwards: only then is known where the files of earlier steps are, and the second run
can be compared. -/
def Repeats (first last : FileSystem) (outs : Place → Prop) (x y : Generating α) (w : World) :
    Prop :=
  ∀ a w₁, x.run w = (.ok a, w₁) → Since first w.files →
    Since first w₁.files ∧ (Evolves outs w₁.files last →
      Evolves outs w.files last ∧ ∀ v, Mirrors outs w.files last v.files →
        ∃ v₁, y.run v = (.ok a, v₁) ∧ Mirrors outs w₁.files last v₁.files)

theorem repeats_pure (a : α) : Repeats first last outs (pure a) (pure a) w := by
  intro b w₁ hrun hs
  cases hrun
  exact ⟨hs, fun he => ⟨he, fun v hv => ⟨v, rfl, hv⟩⟩⟩

theorem repeats_warn (ws : List Warning) : Repeats first last outs (warn ws) (warn ws) w := by
  intro b w₁ hrun hs
  cases hrun
  exact ⟨hs, fun he => ⟨he, fun v hv => ⟨v.report ws, rfl, hv⟩⟩⟩

theorem repeats_bind {f f' : α → Generating β} (hx : Repeats first last outs x y w)
    (hf : ∀ a w₁, x.run w = (.ok a, w₁) → Repeats first last outs (f a) (f' a) w₁) :
    Repeats first last outs (x >>= f) (y >>= f') w := by
  intro b w₂ hrun hs
  obtain ⟨a, w₁, hrunx, hrunf⟩ := exists_of_run_bind_ok hrun
  obtain ⟨hs₁, hback⟩ := hx a w₁ hrunx hs
  obtain ⟨hs₂, hback'⟩ := hf a w₁ hrunx b w₂ hrunf hs₁
  refine ⟨hs₂, fun he => ?_⟩
  obtain ⟨he₁, hagain'⟩ := hback' he
  obtain ⟨he₀, hagain⟩ := hback he₁
  refine ⟨he₀, fun v hv => ?_⟩
  obtain ⟨v₁, hrunv, hv₁⟩ := hagain v hv
  obtain ⟨v₂, hrunv', hv₂⟩ := hagain' v₁ hv₁
  exact ⟨v₂, (run_bind_ok hrunv).trans hrunv', hv₂⟩

theorem repeats_within {target api : String} (h : Repeats first last outs x y w) :
    Repeats first last outs (within target api x) (within target api y) w := by
  intro a w₁ hrun hs
  rw [run_within] at hrun
  rcases hx : x.run w with ⟨e | b, w₂⟩ <;> rw [hx] at hrun <;> cases hrun
  obtain ⟨hs₁, hback⟩ := h a _ hx hs
  refine ⟨hs₁, fun he => ⟨(hback he).1, fun v hv => ?_⟩⟩
  obtain ⟨v₁, hrunv, hv₁⟩ := (hback he).2 v hv
  refine ⟨v₁, ?_, hv₁⟩
  rw [run_within, hrunv]
  rfl

/-- A list of steps repeats if each does after those before it. -/
theorem repeats_foldlM {f f' : α → Generating β} {wrap : α → GenerationError → GenerationError}
    {g g' : γ → α → Generating γ} (hfg : Follows f wrap g)
    (hg : ∀ c a w, Repeats first last outs (f a) (f' a) w →
      Repeats first last outs (g c a) (g' c a) w)
    (l : List α) (c : γ)
    (hl : ∀ a w₁, StopsAt f l w a w₁ → Repeats first last outs (f a) (f' a) w₁) :
    Repeats first last outs (l.foldlM g c) (l.foldlM g' c) w := by
  induction l generalizing c w with
  | nil => exact repeats_pure c
  | cons a l ih =>
    rw [List.foldlM_cons, List.foldlM_cons]
    refine repeats_bind (hg c a w (hl a w ⟨[], l, rfl, .nil w⟩)) fun c' w₁ hrun => ih c' ?_
    intro a' w₂ ⟨done, later, hsplit, hdone⟩
    -- the fold has gone on after its first element, so the step itself has succeeded there
    obtain ⟨b, hstep⟩ : ∃ b, (f a).run w = (.ok b, w₁) := by
      rcases hr : (f a).run w with ⟨e | b, w'⟩
      · cases hrun.symm.trans ((hfg c a w).2 e w' hr)
      · obtain ⟨c'', hc⟩ := (hfg c a w).1 b w' hr
        exact ⟨b, by rw [(Prod.mk.inj (hrun.symm.trans hc)).2]⟩
    exact hl a' w₂ ⟨a :: done, later, by rw [hsplit]; rfl, .cons hstep hdone⟩

end Steps

namespace TargetRun

variable {r : TargetRun} {first last : FileSystem} {outs : Place → Prop} {w w₁ : World}
  {item : Item} {text : String} {o : Opened} {ms : Option Microservice} {a : TargetApi}

/-- How a file is placed: its directories are made for the plugins, whose answer is written to the
place that the path leads to. -/
structure Placed (r : TargetRun) (item : Item) (text content : String) (fs fs₁ fs₂ fs' : FileSystem)
    (place : Place) : Prop where
  grows : Grows (·.IsAncestor item.path) fs fs₁
  hasParent : FileWriter.HasParent fs₁ item.path
  answer_eq : ((r.plugins.run r.target.label item.path text).run fs₁).1 = .ok content
  grows_again : Grows (·.IsAncestor item.path) fs₁ fs₂
  isTree : fs₂.IsTree
  writable : FileWriter.Writable fs₂ item.path place
  written : Written fs₂ fs' place
    (.file ((FileWriter.ofMode r.target.fileMode).mode &&& 0o7777) content.toUTF8)

theorem exists_placed (h : (r.place item text).run w = (.ok (), w₁))
    (hk : ∀ p ∈ r.plugins.plugins r.target.label, p.KeepsFiles) (ht : w.files.IsTree) :
    ∃ content fs₁ fs₂ place, r.Placed item text content w.files fs₁ fs₂ w₁.files place := by
  obtain ⟨content, fs₁, fs, hprep, hplug, hwrite⟩ := ends_place_iff.mp ⟨w₁, h, rfl⟩
  have hkept : _ = fs₁ :=
    Plugin.run_runAll_files hk item.path text fs₁
  obtain rfl : fs = fs₁ := (congrArg Prod.snd hplug).symm.trans hkept
  obtain ⟨fs₂, place, hprep', hw, hwritten⟩ := FileWriter.exists_written_of_run_write hwrite
  have hgrows := FileWriter.grows_run_prepare item.path w.files
  have hgrows' := FileWriter.grows_run_prepare item.path fs
  have htree := FileWriter.isTree_run_prepare ht item.path
  rw [hprep] at hgrows htree
  have htree' := FileWriter.isTree_run_prepare htree item.path
  rw [hprep'] at hgrows' htree'
  exact ⟨content, fs, fs₂, place, hgrows, FileWriter.hasParent_of_run_prepare hprep,
    congrArg Prod.fst hplug, hgrows', htree', hw, hwritten⟩

namespace Placed

variable {content : String} {fs fs₁ fs₂ fs' other : FileSystem} {place : Place}

theorem grows_both (h : r.Placed item text content fs fs₁ fs₂ fs' place) :
    Grows (·.IsAncestor item.path) fs fs₂ :=
  h.grows.trans h.grows_again

theorem since (h : r.Placed item text content fs fs₁ fs₂ fs' place) (hs : Since first fs) :
    Since first fs' := by
  have hwrites := Evolves.of_written h.written h.writable.not_hasDir
  refine ⟨?_, hs.evolves.trans (.trans (.of_grows h.grows_both) (hwrites.mono fun _ _ => trivial))⟩
  exact h.isTree.of_written h.written (h.isTree.anchored_locate h.writable.locate_eq)
    h.writable.not_hasDir

theorem locate_eq (h : r.Placed item text content fs fs₁ fs₂ fs' place)
    (he : Evolves outs fs' last) : last.locate item.path = .ok place :=
  he.keepsDirs.locate_eq
    ((h.written.keepsDirs h.writable.not_hasDir).locate_eq h.writable.locate_eq)

theorem evolves_made (h : r.Placed item text content fs fs₁ fs₂ fs' place) (ho : outs place)
    (he : Evolves outs fs' last) : Evolves outs fs₂ last := by
  refine .trans ((Evolves.of_written h.written h.writable.not_hasDir).mono ?_) he
  rintro _ rfl
  exact ho

theorem evolves (h : r.Placed item text content fs fs₁ fs₂ fs' place) (ho : outs place)
    (he : Evolves outs fs' last) : Evolves outs fs last :=
  .trans (.of_grows h.grows_both) (h.evolves_made ho he)

/-- In a later run the directories are there and the file is written in the same way, whether it is
still as the first run has left it or has been written again already. -/
theorem redo (h : r.Placed item text content fs fs₁ fs₂ fs' place) (hout : outs place)
    (hk : ∀ p ∈ r.plugins.plugins r.target.label, p.KeepsFiles)
    (ho : ∀ p ∈ r.plugins.plugins r.target.label, p.Overlooks outs) (he : Evolves outs fs' last)
    {v : World} (hv : Mirrors outs fs last v.files) :
    ∃ v', (r.place item text).run v = (.ok (), v') ∧ Mirrors outs fs' last v'.files := by
  have hlast : Evolves outs fs₁ last := .trans (.of_grows h.grows_again) (h.evolves_made hout he)
  have hmade : Evolves outs fs₁ v.files := (hv.grows h.grows).evolves hlast
  have hkeeps := hv.keepsDirs (h.evolves hout he)
  -- all that the first run has made for the file is there already
  have hparent : FileWriter.HasParent v.files item.path := h.hasParent.mono hmade.keepsDirs
  have hw : FileWriter.Writable v.files item.path place := by
    obtain ⟨mode, old, hfile⟩ := he.exists_file h.written.node?_self
    obtain ⟨mode', old', hfile'⟩ := hv.exists_file hfile
    exact .of_file (hkeeps.locate_eq (h.locate_eq he)) h.writable.endsInSlash_eq hfile'
  have hprep := FileWriter.run_prepare_of_hasParent hw.isDir_eq hparent
  have hplug : (r.plugins.run r.target.label item.path text).run v.files =
      (.ok content, v.files) :=
    Plugin.run_runAll_eq hk ho hmade (FileWriter.commandDir_eq h.hasParent hparent) h.answer_eq
  obtain ⟨files, hover, hwritten⟩ :=
    FileWriter.run_overwrite hw (FileWriter.ofMode r.target.fileMode) content
  refine ⟨{ v with files }, ?_, (hv.grows h.grows_both).written h.written hwritten hout⟩
  unfold TargetRun.place
  rw [run_onFiles_bind_ok v hprep, run_onFiles_bind_ok v hplug, run_onFiles, FileWriter.write_eq,
    run_bind_ok hprep, hover]

end Placed

theorem repeats_place (hk : ∀ p ∈ r.plugins.plugins r.target.label, p.KeepsFiles)
    (ho : ∀ p ∈ r.plugins.plugins r.target.label, p.Overlooks outs)
    (hout : ∀ place, last.locate item.path = .ok place → outs place) (w : World) :
    Repeats first last outs (r.place item text) (r.place item text) w := by
  intro _ w₁ hrun hs
  obtain ⟨content, fs₁, fs₂, place, h⟩ := exists_placed hrun hk hs.isTree
  refine ⟨h.since hs, fun he => ?_⟩
  have hplace : outs place := hout place (h.locate_eq he)
  exact ⟨h.evolves hplace he, fun v hv => h.redo hplace hk ho he hv⟩

/-- What is needed for the file of an item to be the same again: its place is one of those that are
written, what is read for it is not disturbed, and the engines answer alike. -/
structure Redoes (r : TargetRun) (es : Engines) (first last : FileSystem) (outs : Place → Prop)
    (o : Opened) (item : Item) (fs : FileSystem) : Prop where
  outs_of_locate : ∀ place, last.locate item.path = .ok place → outs place
  undisturbed : ∀ q, Snippet.Reads fs r.templates
    (Snippet.forTarget r.target.label item.microservice) o.template.text.toList q →
      Undisturbed first last outs q
  sameAnswer : ∀ q, r.AsksForText o.template fs item q → r.engines.SameAnswer es q

theorem repeats_generateSubject {es : Engines}
    (hk : ∀ p ∈ r.plugins.plugins r.target.label, p.KeepsFiles)
    (ho : ∀ p ∈ r.plugins.plugins r.target.label, p.Overlooks outs)
    (hpath : r.engines.SameAnswer es (.render .statements o.outPath.raw.toList (o.data ms)))
    (hitem : ∀ item, r.item o ms = .ok item → r.Redoes es first last outs o item w.files) :
    Repeats first last outs (r.generateSubject o ms)
      (({ r with engines := es } : TargetRun).generateSubject o ms) w := by
  intro _ w₁ hrun hs
  obtain ⟨ws, hsubject⟩ := r.run_generateSubject o ms w
  rw [hrun] at hsubject
  rcases hi : r.item o ms with e | item <;> simp only [hi] at hsubject
  · cases hsubject
  rcases ht : r.rendered o.template w.files item with e | text <;> simp only [ht] at hsubject
  · cases hsubject
  have hi' : ({ r with engines := es } : TargetRun).item o ms = .ok item := by
    rw [TargetRun.item, ← fst_run_outputPath_eq hpath]
    exact hi
  have hredoes := hitem item hi
  obtain ⟨hs₁, hback⟩ :=
    repeats_place hk ho hredoes.outs_of_locate (w.report ws) _ _ hsubject.symm hs
  refine ⟨hs₁, fun he => ⟨(hback he).1, fun v hv => ?_⟩⟩
  obtain ⟨ws', hsubject'⟩ := ({ r with engines := es } : TargetRun).run_generateSubject o ms v
  have ht' : ({ r with engines := es } : TargetRun).rendered o.template v.files item = .ok text :=
    rendered_eq ht (fun q hq => (hredoes.undisturbed q hq).sameFile hs (hback he).1 hv)
      hredoes.sameAnswer
  simp only [hi', ht'] at hsubject'
  obtain ⟨v₁, hrunv, hv₁⟩ := (hback he).2 (v.report ws') hv
  exact ⟨v₁, hsubject'.trans hrunv, hv₁⟩

theorem repeats_generateApi {es : Engines}
    (hk : ∀ p ∈ r.plugins.plugins r.target.label, p.KeepsFiles)
    (ho : ∀ p ∈ r.plugins.plugins r.target.label, p.Overlooks outs)
    (hreads : r.engines.SameAnswer es (.reads a.outPath.toList))
    (hprobes : ∀ q, Version.Probes w.files r.templates r.target a q → Undisturbed first last outs q)
    (hsubject : ∀ o ms w₂, r.opening w.files a = .ok o →
      StopsAt (r.generateSubject o) (r.subjects o.api a) w ms w₂ →
        r.engines.SameAnswer es (.render .statements o.outPath.raw.toList (o.data ms)) ∧
        ∀ item, r.item o ms = .ok item → r.Redoes es first last outs o item w₂.files) :
    Repeats first last outs (r.generateApi a)
      (({ r with engines := es } : TargetRun).generateApi a) w := by
  intro _ w₁ hrun hs
  rw [r.run_generateApi] at hrun
  rcases hopen : r.opening w.files a with e | o <;> simp only [hopen] at hrun
  · cases hrun
  have hsubjects : Repeats first last outs
      ((r.subjects o.api a).foldlM (fun _ ms => r.generateSubject o ms) ())
      ((r.subjects o.api a).foldlM
        (fun _ ms => ({ r with engines := es } : TargetRun).generateSubject o ms) ()) w := by
    refine repeats_foldlM (r.follows_generateSubject o) (fun _ _ _ h => h) _ _
      fun ms w₂ hstops => ?_
    obtain ⟨hpath, hitem⟩ := hsubject o ms w₂ hopen hstops
    exact repeats_generateSubject hk ho hpath hitem
  obtain ⟨hs₁, hback⟩ := repeats_bind hsubjects (fun _ _ _ => repeats_pure _) _ _ hrun hs
  refine ⟨hs₁, fun he => ⟨(hback he).1, fun v hv => ?_⟩⟩
  obtain ⟨v₁, hrunv, hv₁⟩ := (hback he).2 v hv
  refine ⟨v₁, ?_, hv₁⟩
  rw [run_generateApi,
    opening_eq hopen (fun q hq => (hprobes q hq).sameFile hs (hback he).1 hv) hreads]
  exact hrunv

end TargetRun

end Stencil
