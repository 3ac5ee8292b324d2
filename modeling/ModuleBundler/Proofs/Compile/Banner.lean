import ModuleBundler.Proofs.Build.Parallel
import ModuleBundler.Proofs.Compile.Identity
import ModuleBundler.Proofs.Script.Opening
import ModuleBundler.Proofs.Transform.Order

/-! A comment above the modules of a build. It changes nothing that the build finds, as long as no
module that it is put above begins with a line that addresses the system's loader: such a line has
to come first, and below the comment the module is not read at all. -/
namespace ModuleBundler

open Build Script

namespace Transform

variable {path : Path} {text : String}

theorem rule_banner_eq_map (comment text : String) :
    (builtin (some comment)).rule text ["banner"] =
      (Loaders.pattern text).map fun pattern => ⟨pattern, [banner comment]⟩ := by
  have hget : ["banner"].mapM (builtin (some comment)).get = .ok [banner comment] := rfl
  rw [Loaders.rule, hget]
  rfl

theorem transforms_of_banner {comment pattern : String} {rule : Rule}
    (h : (builtin (some comment)).rule pattern ["banner"] = .ok rule) :
    rule.transforms = [banner comment] := by
  rw [rule_banner_eq_map] at h
  cases hpattern : Loaders.pattern pattern with
  | error e =>
    rw [hpattern] at h
    cases h
  | ok p =>
    rw [hpattern] at h
    cases h
    rfl

theorem rule_banner {comment text : String} {e : Pattern.Expr}
    (hread : Pattern.Expr.read? text.toList = some e) (hdepth : e.depth ≤ Pattern.maxDepth)
    (hweight : e.weight ≤ Pattern.maxWeight) :
    (builtin (some comment)).rule text ["banner"] = .ok ⟨⟨text, e⟩, [banner comment]⟩ := by
  have hpattern : Loaders.pattern text = .ok ⟨text, e⟩ := by
    simp [Loaders.pattern, Pattern.read?, hread, hdepth, hweight]
  rw [rule_banner_eq_map, hpattern]
  rfl

end Transform

namespace Sources

theorem targets_moved (s : Sources) (directory : Path) (calls : List DependencyCall) (n : Nat) :
    s.targets directory (calls.map (DependencyCall.moved n)) = s.targets directory calls := by
  induction calls with
  | nil => rfl
  | cons call more ih =>
    rw [List.map_cons, targets, targets, List.mapM_cons, List.mapM_cons, ← targets, ← targets, ih]
    rfl

variable {s s' : Sources} {e : String × Path} {p p' q : Progress}

theorem Parallel.buildEntry (hpar : s.Parallel s') (hbound : s'.bound = s.bound)
    (h : outcome (s.buildModule e.1 (s.bound + 1) e.2) p = (.ok ⟨⟩, q))
    (hbare : p'.graph.bare = p.graph.bare) :
    s'.Follows (s.entry e) q.graph (outcome (s'.buildEntry e) p') := by
  have hmodule := hpar.buildModule h hbare
  rw [← hbound] at hmodule
  have hname := hmodule.bind (List.Subset.refl _) (f := fun _ => pure (s'.name e.2))
    fun q' hq' => .pure hq'
  have hentry : s.entry e = ⟨e.1, s'.name e.2⟩ := by rw [entry, hpar.name_eq]
  rw [hentry]
  exact hname.bind (List.Subset.refl _) fun q' hq' => .pure hq'

theorem Parallel.buildEntries (hpar : s.Parallel s') (hbound : s'.bound = s.bound)
    {es : List (String × Path)} {entries : List Entry}
    (h : outcome (es.mapM s.buildEntry) p = (.ok entries, q))
    (hbare : p'.graph.bare = p.graph.bare) :
    s'.Follows entries q.graph (outcome (es.mapM s'.buildEntry) p') := by
  induction es generalizing entries p p' with
  | nil =>
    cases h
    exact .pure hbare
  | cons e more ih =>
    obtain ⟨p₁, rest, hbuild, hrest, rfl⟩ := buildEntries_cons_ok h
    -- the modules of the first entry are there in the end, so they are among those to be built
    have hsub := (buildEntries_invariant hrest
      (I := fun _ g => p₁.graph.modules.map Module.path ⊆ g.modules.map Module.path)
      (List.Subset.refl _) fun _ _ _ _ _ _ hsub hmodule =>
        List.Subset.trans hsub (serves_buildModule hmodule).grows.paths_subset).2
    rw [List.mapM_cons]
    exact (hpar.buildEntry hbound hbuild hbare).bind hsub fun q' hq' =>
      (ih hrest hq').bind (List.Subset.refl _) fun q'' hq'' => .pure hq''

end Sources

namespace BuildConfig

def withRule (c : BuildConfig) (rule : Rule) : BuildConfig := { c with rules := rule :: c.rules }

variable {c : BuildConfig} {cwd : Path} {files : Files} {path : Path} {comment pattern : String}
  {rule : Rule} {r : Reading} {d d' : Draft}

section Draft

theorem reading_withRule (happlies : rule.applies path = false) :
    ((c.withRule rule).sources cwd files).reading path = (c.sources cwd files).reading path := by
  have happly : Transform.apply (rule :: c.rules) path = Transform.apply c.rules path := by
    funext raw
    rw [Transform.apply_cons, happlies]
    cases Transform.apply c.rules path raw <;> rfl
  unfold Sources.reading withRule sources
  dsimp only
  rw [happly]

variable (hcomment : IsComment comment.toList) (htransforms : rule.transforms = [.banner comment])

include hcomment htransforms

theorem apply_banner (happlies : rule.applies path = true) {raw text : String}
    (h : Transform.apply c.rules path raw = .ok text) :
    Transform.apply (c.withRule rule).rules path raw = .ok (comment ++ "\n" ++ text) := by
  have hne : comment.isEmpty = false := by
    obtain ⟨body, hbody, -⟩ := hcomment
    rw [Bool.eq_false_iff]
    intro hempty
    rw [String.isEmpty_iff.1 hempty] at hbody
    cases hbody
  show Transform.apply (rule :: c.rules) path raw = _
  rw [Transform.apply_cons, h, htransforms, happlies]
  simp [Except.bind, Transform.runAll, Transform.banner, hne]

theorem reading_below (happlies : rule.applies path = true)
    (hr : (c.sources cwd files).reading path = .ok r) (h : ¬ HasHashbang r.text.toList) :
    ∃ below n, ((c.withRule rule).sources cwd files).reading path = .ok below ∧
      below.scan.calls = r.scan.calls.map (DependencyCall.moved n) := by
  obtain ⟨raw, hraw, htext, hscan⟩ := Sources.reading_eq_ok.1 hr
  obtain ⟨below, n, hbelow, hcalls⟩ := scan_below_comment hcomment h hscan
  refine ⟨⟨comment ++ "\n" ++ r.text, below⟩, n, Sources.reading_eq_ok.2 ⟨raw, hraw, ?_, hbelow⟩,
    hcalls⟩
  exact apply_banner hcomment htransforms happlies htext

theorem not_reading_below_hashbang (happlies : rule.applies path = true)
    (hr : (c.sources cwd files).reading path = .ok r) (h : HasHashbang r.text.toList)
    {below : Reading} : ((c.withRule rule).sources cwd files).reading path ≠ .ok below := by
  intro hbelow
  obtain ⟨raw, hraw, htext, -⟩ := Sources.reading_eq_ok.1 hr
  obtain ⟨raw', hraw', htext', hscan'⟩ := Sources.reading_eq_ok.1 hbelow
  obtain rfl : raw' = raw := Except.ok.inj (hraw'.symm.trans hraw)
  have htexts := (apply_banner hcomment htransforms happlies htext).symm.trans htext'
  rw [← Except.ok.inj htexts] at hscan'
  obtain ⟨fault, hfault⟩ :=
    scan_below_comment_hashbang callee (.ofPath path) hcomment h
  cases hfault.symm.trans hscan'

theorem draft_withRule (hd : (c.sources cwd files).draft path = .ok d) :
    ((∃ d', ((c.withRule rule).sources cwd files).draft path = .ok d') ↔
      (rule.applies path = true → ¬ HasHashbang d.reading.text.toList)) ∧
    ∀ d', ((c.withRule rule).sources cwd files).draft path = .ok d' → d'.targets = d.targets := by
  obtain ⟨hr, htargets⟩ := Sources.draft_eq_ok.1 hd
  cases happlies : rule.applies path with
  | false =>
    have hsame : ((c.withRule rule).sources cwd files).draft path = .ok d :=
      Sources.draft_eq_ok.2 ⟨(reading_withRule happlies).trans hr, htargets⟩
    refine ⟨⟨fun _ h => (nomatch h), fun _ => ⟨d, hsame⟩⟩, fun d' hd' => ?_⟩
    obtain rfl := Except.ok.inj (hd'.symm.trans hsame)
    rfl
  | true =>
    by_cases hhashbang : HasHashbang d.reading.text.toList
    · have hnone := fun d' hd' => not_reading_below_hashbang hcomment htransforms happlies hr
        hhashbang (Sources.draft_eq_ok (d := d').1 hd').1
      exact ⟨⟨fun ⟨d', hd'⟩ => (hnone d' hd').elim, fun h => absurd hhashbang (h rfl)⟩,
        fun d' hd' => (hnone d' hd').elim⟩
    · obtain ⟨below, n, hbelow, hcalls⟩ :=
        reading_below hcomment htransforms happlies hr hhashbang
      have hsame : ((c.withRule rule).sources cwd files).draft path = .ok ⟨below, d.targets⟩ := by
        refine Sources.draft_eq_ok.2 ⟨hbelow, ?_⟩
        rw [hcalls, Sources.targets_moved]
        exact htargets
      refine ⟨⟨fun _ _ => hhashbang, fun _ => ⟨_, hsame⟩⟩, fun d' hd' => ?_⟩
      obtain rfl := Except.ok.inj (hd'.symm.trans hsame)
      rfl

theorem parallel_withRule :
    (c.sources cwd files).Parallel ((c.withRule rule).sources cwd files) where
  root_eq := rfl
  targets_eq _ _ d' hd hd' := (draft_withRule hcomment htransforms hd).2 d' hd'

end Draft

section Compile

variable {report : Report} {p : Progress} {entries : List Entry} {g : Graph}

theorem drafts_withRule_iff (hcomment : IsComment comment.toList)
    (htransforms : rule.transforms = [.banner comment])
    (hgives : ∀ m ∈ g.modules, ∃ d : Draft, d.Gives (c.sources cwd files) m) :
    ((c.withRule rule).sources cwd files).Drafts g ↔
      ∀ m ∈ g.modules, rule.applies m.path = true →
        ∀ r, (c.sources cwd files).reading m.path = .ok r → ¬ HasHashbang r.text.toList := by
  have hmodule : ∀ m ∈ g.modules,
      (∃ d', ((c.withRule rule).sources cwd files).draft m.path = .ok d') ↔
        (rule.applies m.path = true →
          ∀ r, (c.sources cwd files).reading m.path = .ok r → ¬ HasHashbang r.text.toList) := by
    intro m hm
    obtain ⟨d, hd⟩ := hgives m hm
    have hreading := (Sources.draft_eq_ok.1 hd.draft_eq).1
    rw [(draft_withRule hcomment htransforms hd.draft_eq).1]
    refine ⟨fun h happlies r hr => ?_, fun h happlies => h happlies _ hreading⟩
    obtain rfl := Except.ok.inj (hr.symm.trans hreading)
    exact h happlies
  constructor
  · exact fun hdrafts m hm => (hmodule m hm).1 (hdrafts _ (List.mem_map_of_mem hm))
  · intro h t ht
    obtain ⟨m, hm, rfl⟩ := List.mem_map.1 ht
    exact (hmodule m hm).2 (h m hm)

/-- A build that succeeds also succeeds with a comment put above the modules of a rule, if and only
if none of these begins with a line that has to come first. It then makes the same modules from
other sources. -/
theorem compile_banner_iff (h : c.compile cwd files = (.ok report, p))
    (hcomment : IsComment comment.toList)
    (hrule : (Transform.builtin (some comment)).rule pattern ["banner"] = .ok rule) :
    ((∃ report' p', (c.withRule rule).compile cwd files = (.ok report', p')) ↔
      ∀ m ∈ report.modules, rule.applies m.path = true →
        ∀ r, (c.sources cwd files).reading m.path = .ok r → ¬ HasHashbang r.text.toList) ∧
    ∀ report' p', (c.withRule rule).compile cwd files = (.ok report', p') →
      report'.entries = report.entries ∧
        report'.modules.map Module.bare = report.modules.map Module.bare := by
  have htransforms := Transform.transforms_of_banner hrule
  have hgives := (covers_of_compile h).gives
  have hfiles : (c.entries.map fun e => c.output.fileFor e.1).Nodup := by
    obtain ⟨-, -, -, -, -, hnd⟩ := built_of_compile h
    obtain ⟨g, rfl, hown⟩ := owning_of_compile h
    rwa [map_fst_assets hown] at hnd
  obtain ⟨hne, entries, q, hbuild, rfl, -⟩ := built_of_compile h
  -- the two builds go the same way for as long as files can be built below the comment
  have hfollows : ((c.withRule rule).sources cwd files).Follows entries q.graph
      (outcome ((c.withRule rule).buildEntries cwd files) ((c.withRule rule).begun cwd)) :=
    (parallel_withRule hcomment htransforms).buildEntries rfl hbuild rfl
  have hsame : ∀ report' p', (c.withRule rule).compile cwd files = (.ok report', p') →
      ∃ g', report' = (c.withRule rule).reportOn entries g' ∧ g'.bare = q.graph.bare := by
    intro report' p' h'
    obtain ⟨-, entries', q', hbuild', rfl, -⟩ := built_of_compile h'
    rw [hbuild'] at hfollows
    obtain ⟨rfl, hbare⟩ := hfollows.same entries' rfl
    exact ⟨q'.graph, rfl, hbare⟩
  refine ⟨Iff.trans ?_ (drafts_withRule_iff hcomment htransforms hgives), fun report' p' h' => ?_⟩
  · constructor
    · -- the other report has the same modules, and each was built below the comment
      rintro ⟨report', p', h'⟩ t ht
      have hgives' := (covers_of_compile h').gives
      obtain ⟨g', rfl, hbare⟩ := hsame report' p' h'
      rw [← Graph.paths_eq_of_bare hbare] at ht
      obtain ⟨m, hm, rfl⟩ := List.mem_map.1 ht
      obtain ⟨d', hd'⟩ := hgives' m hm
      exact ⟨d', hd'.draft_eq⟩
    · intro hdrafts
      obtain ⟨entries', hok⟩ := hfollows.ok hdrafts
      rcases compile_of_files (c := c.withRule rule) hne (Prod.ext hok rfl) with
        ⟨⟨p', h'⟩, -⟩ | ⟨-, hshared⟩
      · exact ⟨_, p', h'⟩
      · exact absurd hfiles hshared
  · obtain ⟨g', rfl, hbare⟩ := hsame report' p' h'
    exact ⟨rfl, congrArg Graph.modules hbare⟩

end Compile

def programFiles : Memory :=
  .ofList [(.ofString "/app/main.js", "#!/usr/bin/env node\nrequire('./b');"),
    (.ofString "/app/b.js", "1;")]

def programConfig : BuildConfig :=
  (new (.ofString "/app")).withEntry "main" (.ofString "main.js")

/-- The comment can be put above the loaded module, and not above the program. -/
theorem compile_banner_program :
    ∃ report p, programConfig.compile (.ofString "/") programFiles.view = (.ok report, p) ∧
      (∃ rule, (Transform.builtin (some "/* 1.0 */")).rule "b" ["banner"] = .ok rule ∧
        ∃ report' p', (programConfig.withRule rule).compile (.ofString "/") programFiles.view =
          (.ok report', p') ∧ report'.modules.map Module.bare = report.modules.map Module.bare) ∧
      ∃ rule, (Transform.builtin (some "/* 1.0 */")).rule "m" ["banner"] = .ok rule ∧
        ¬ ∃ report' p', (programConfig.withRule rule).compile (.ofString "/") programFiles.view =
          (.ok report', p') := by
  have hpaths : (programConfig.compile (.ofString "/") programFiles.view).1.toOption.map
      (fun r => r.modules.map Module.path) =
        some [.ofString "/app/main.js", .ofString "/app/b.js"] := by
    decide +kernel
  have hmain : ((programConfig.sources (.ofString "/") programFiles.view).reading
      (.ofString "/app/main.js")).toOption.map
        (fun r => decide (HasHashbang r.text.toList)) = some true := by
    decide +kernel
  have hloaded : ((programConfig.sources (.ofString "/") programFiles.view).reading
      (.ofString "/app/b.js")).toOption.map
        (fun r => decide (HasHashbang r.text.toList)) = some false := by
    decide +kernel
  have hcomment : IsComment "/* 1.0 */".toList := ⟨" 1.0 ".toList, rfl, by decide⟩
  have hb : (Transform.builtin (some "/* 1.0 */")).rule "b" ["banner"] =
      .ok ⟨⟨"b", .set ⟨#[98, 99]⟩⟩, [.banner "/* 1.0 */"]⟩ :=
    Transform.rule_banner (by decide +kernel) (by simp [Pattern.Expr.depth]) (by decide +kernel)
  have hm : (Transform.builtin (some "/* 1.0 */")).rule "m" ["banner"] =
      .ok ⟨⟨"m", .set ⟨#[109, 110]⟩⟩, [.banner "/* 1.0 */"]⟩ :=
    Transform.rule_banner (by decide +kernel) (by simp [Pattern.Expr.depth]) (by decide +kernel)
  obtain ⟨report, p, h, hpaths⟩ := report_of_toOption hpaths
  refine ⟨report, p, h, ⟨_, hb, ?_⟩, _, hm, fun hok => ?_⟩
  · obtain ⟨hiff, hsame⟩ := compile_banner_iff h hcomment hb
    obtain ⟨report', p', h'⟩ := hiff.2 fun module hmodule happlies r hr => by
      have hpath := hpaths ▸ List.mem_map_of_mem (f := Module.path) hmodule
      rcases List.mem_pair.1 hpath with hpath | hpath
      · rw [hpath] at happlies
        exact absurd happlies (by decide +kernel)
      · obtain ⟨r', hr', hplain⟩ := ok_of_toOption hloaded
        rw [hpath] at hr
        obtain rfl := Except.ok.inj (hr.symm.trans hr')
        exact of_decide_eq_false hplain
    exact ⟨report', p', h', (hsame report' p' h').2⟩
  · obtain ⟨module, hmodule, hpath⟩ : ∃ module ∈ report.modules,
        module.path = .ofString "/app/main.js" :=
      List.mem_map.1 (hpaths ▸ List.mem_cons_self)
    obtain ⟨r, hr, hhashbang⟩ := ok_of_toOption hmain
    exact (compile_banner_iff h hcomment hm).1.1 hok module hmodule
      (hpath ▸ by decide +kernel) r (hpath ▸ hr) (of_decide_eq_true hhashbang)

end BuildConfig

end ModuleBundler
