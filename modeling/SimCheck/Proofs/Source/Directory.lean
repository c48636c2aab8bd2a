import Mathlib.Data.List.Nodup
import SimCheck.Proofs.Source.Discipline

/-!
# The paths of a property by their numbers

A worker is told the number of a path property and finds the path among those of the property.  If the
numbers of all paths are distinct, it finds the path that the checker simulates in the tests of that
number.

* `Property.Contains p q`: the tree `q` is a part of `p`, at any depth;
* `Property.mem_pathList_iff`: the paths that are collected are those of all thresholds;
* `Property.path?`: the path of a number; `Property.path?_eq_some_iff`;
* `Session.exists_path_of_began`: the runs that are announced to a source;
* `Leaves.directed`: tests that simulate what has been found under the number of their run;
* `Property.finds_what_is_simulated`: the paths that are found, and whole verifications;
* `Nesting`: a path within a path.
-/

namespace SimCheck

variable {R G S : Type}

namespace Property

/-! ### Parts of a tree -/

/-- The second tree is a part of the first one. -/
inductive Contains : Property R → Property R → Prop
  | refl (p : Property R) : Contains p p
  | not {p q : Property R} (h : Contains p q) : Contains (.not p) q
  | operand (c : Connective) (head : Option (Expression R)) {ps : List (Property R)} {p q : Property R}
      (hp : p ∈ ps) (h : Contains p q) : Contains (.combine c head ps) q
  | pre (op : ThresholdOp) (bound : R) {path : PathProperty R} {q : Property R}
      (h : Contains path.pre q) : Contains (.threshold op bound path) q
  | post (op : ThresholdOp) (bound : R) {path : PathProperty R} {q : Property R}
      (h : Contains path.post q) : Contains (.threshold op bound path) q

/-- The tree has a threshold on the path, at any depth. -/
def HasPath (p : Property R) (path : PathProperty R) : Prop :=
  ∃ op bound, p.Contains (.threshold op bound path)

section

variable {p q : Property R} {ps : List (Property R)} {path : PathProperty R}

theorem pathList_threshold (op : ThresholdOp) (bound : R) (path : PathProperty R) :
    (threshold op bound path).pathList = path :: (path.pre.pathList ++ path.post.pathList) := by
  cases path
  rw [pathList]
  rfl

theorem mem_pathLists : path ∈ pathLists ps ↔ ∃ p ∈ ps, path ∈ p.pathList := by
  induction ps with
  | nil => simp [pathLists]
  | cons p ps ih => simp [pathLists, ih]

theorem Contains.pathList_subset (h : p.Contains q) : q.pathList ⊆ p.pathList := by
  induction h with
  | refl p => exact List.Subset.refl _
  | not _ ih =>
    rw [pathList]
    exact ih
  | operand c head hp _ ih =>
    rw [pathList]
    exact fun path hpath => mem_pathLists.2 ⟨_, hp, ih hpath⟩
  | pre op bound _ ih =>
    rw [pathList_threshold]
    exact fun path hpath => List.mem_cons_of_mem _ (List.mem_append_left _ (ih hpath))
  | post op bound _ ih =>
    rw [pathList_threshold]
    exact fun path hpath => List.mem_cons_of_mem _ (List.mem_append_right _ (ih hpath))

end

mutual

theorem hasPath_of_mem_pathList {path : PathProperty R} :
    ∀ p : Property R, path ∈ p.pathList → p.HasPath path
  | .expr _, h => by
    rw [pathList] at h
    cases h
  | .not p, h => by
    rw [pathList] at h
    obtain ⟨op, bound, hp⟩ := hasPath_of_mem_pathList p h
    exact ⟨op, bound, .not hp⟩
  | .combine c head ps, h => by
    rw [pathList] at h
    obtain ⟨p, hmem, op, bound, hp⟩ := hasPath_of_mem_pathLists ps h
    exact ⟨op, bound, .operand c head hmem hp⟩
  | .threshold op bound (.until id lower upper pre post), h => by
    rw [pathList] at h
    rcases List.mem_cons.1 h with rfl | h
    · exact ⟨op, bound, .refl _⟩
    rcases List.mem_append.1 h with h | h
    · obtain ⟨op', bound', hpre⟩ := hasPath_of_mem_pathList pre h
      exact ⟨op', bound', .pre op bound hpre⟩
    · obtain ⟨op', bound', hpost⟩ := hasPath_of_mem_pathList post h
      exact ⟨op', bound', .post op bound hpost⟩

theorem hasPath_of_mem_pathLists {path : PathProperty R} :
    ∀ ps : List (Property R), path ∈ pathLists ps → ∃ p ∈ ps, p.HasPath path
  | [], h => by
    rw [pathLists] at h
    cases h
  | p :: ps, h => by
    rw [pathLists] at h
    rcases List.mem_append.1 h with h | h
    · exact ⟨p, List.mem_cons_self, hasPath_of_mem_pathList p h⟩
    · obtain ⟨q, hmem, hq⟩ := hasPath_of_mem_pathLists ps h
      exact ⟨q, List.mem_cons_of_mem _ hmem, hq⟩

end

/-- The paths that are collected are those of all thresholds, at any depth. -/
theorem mem_pathList_iff {p : Property R} {path : PathProperty R} :
    path ∈ p.pathList ↔ p.HasPath path := by
  refine ⟨hasPath_of_mem_pathList p, fun ⟨op, bound, h⟩ => h.pathList_subset ?_⟩
  rw [pathList_threshold]
  exact List.mem_cons_self

mutual

theorem pathList_eq_nil_iff : ∀ p : Property R, p.pathList = [] ↔ p.isProbabilistic = false
  | .expr _ => by simp [pathList, isProbabilistic]
  | .not p => by rw [pathList, isProbabilistic, pathList_eq_nil_iff p]
  | .combine _ _ ps => by rw [pathList, isProbabilistic, pathLists_eq_nil_iff ps]
  | .threshold _ _ (.until ..) => by simp [pathList, isProbabilistic]

theorem pathLists_eq_nil_iff :
    ∀ ps : List (Property R), pathLists ps = [] ↔ anyProbabilistic ps = false
  | [] => by simp [pathLists, anyProbabilistic]
  | p :: ps => by
    rw [pathLists, anyProbabilistic, List.append_eq_nil_iff, Bool.or_eq_false_iff,
      pathList_eq_nil_iff p, pathLists_eq_nil_iff ps]

end

/-! ### The table -/

/-- The path property of a number. -/
def path? (p : Property R) (id : PropertyId) : Option (PathProperty R) :=
  p.paths.find? (·.id = id)

/-- A path of a new number is added. -/
theorem insertPath_perm {path : PathProperty R} {found : List (PathProperty R)}
    (hnew : path.id ∉ found.map (·.id)) : (insertPath path found).Perm (path :: found) := by
  induction found with
  | nil => exact .refl _
  | cons q found ih =>
    rw [List.map_cons, List.mem_cons, not_or] at hnew
    unfold insertPath
    rw [if_neg hnew.1]
    split_ifs
    · exact .refl _
    · exact ((ih hnew.2).cons q).trans (.swap path q found)

theorem foldl_insertPath_perm {new found : List (PathProperty R)}
    (hdistinct : ((new ++ found).map (·.id)).Nodup) :
    (new.foldl (fun found path => insertPath path found) found).Perm (new ++ found) := by
  -- The numbers of what has been found and of what is still to come stay distinct.
  induction new generalizing found with
  | nil => exact .refl _
  | cons path new ih =>
    have hmove : (path :: new ++ found).Perm (new ++ path :: found) := List.perm_middle.symm
    have hdistinct' : ((new ++ path :: found).map (·.id)).Nodup :=
      (hmove.map _).nodup_iff.1 hdistinct
    have hnew : path.id ∉ found.map (·.id) := by
      rw [List.cons_append, List.map_cons, List.nodup_cons, List.map_append,
        List.mem_append] at hdistinct
      exact fun hmem => hdistinct.1 (.inr hmem)
    have hinsert := insertPath_perm hnew
    have hperm : (new ++ insertPath path found).Perm (new ++ path :: found) := hinsert.append_left new
    exact ((ih ((hperm.map _).nodup_iff.2 hdistinct')).trans hperm).trans hmove.symm

/-- The paths of distinct numbers are all there. -/
theorem paths_perm {p : Property R} (hdistinct : (p.pathList.map (·.id)).Nodup) :
    p.paths.Perm p.pathList := by
  have hperm : p.paths.Perm (p.pathList ++ []) := foldl_insertPath_perm (by rwa [List.append_nil])
  rwa [List.append_nil] at hperm

section

variable {p : Property R} (hdistinct : (p.pathList.map (·.id)).Nodup)

include hdistinct

theorem mem_paths_iff {path : PathProperty R} : path ∈ p.paths ↔ p.HasPath path :=
  (paths_perm hdistinct).mem_iff.trans mem_pathList_iff

/-- **Under a number the path of this number is found, if the tree has a threshold on one.** -/
theorem path?_eq_some_iff {id : PropertyId} {path : PathProperty R} :
    p.path? id = some path ↔ path.id = id ∧ p.HasPath path := by
  rw [← mem_paths_iff hdistinct]
  constructor
  · intro h
    exact ⟨by simpa using List.find?_some h, List.mem_of_find?_eq_some h⟩
  · rintro ⟨rfl, hmem⟩
    have hkeys : (p.paths.map (·.id)).Nodup :=
      ((paths_perm hdistinct).map _).nodup_iff.2 hdistinct
    have hsome : (p.path? path.id).isSome = true :=
      List.find?_isSome.2 ⟨path, hmem, decide_eq_true rfl⟩
    obtain ⟨found, hfound⟩ := Option.isSome_iff_exists.1 hsome
    have hid : found.id = path.id := by simpa using List.find?_some hfound
    rw [hfound, List.inj_on_of_nodup_map hkeys (List.mem_of_find?_eq_some hfound) hmem hid]

theorem paths_eq_nil_iff : p.paths = [] ↔ p.isProbabilistic = false := by
  rw [← pathList_eq_nil_iff, ← List.length_eq_zero_iff, (paths_perm hdistinct).length_eq,
    List.length_eq_zero_iff]

end

end Property

/-! ### Runs that are announced -/

/-- A run belongs to the test of its minute. -/
theorem Minute.eq_of_began_mem {m : Minute R G} {s t : State R} {id : PropertyId}
    (h : .began id t ∈ m.calls s) : id = m.path.id ∧ t = s := by
  unfold Minute.calls at h
  split_ifs at h
  · cases h
  · simpa using h

variable [Scalar R]

namespace Property

mutual

/-- What can be tested at the first level is one of the paths. -/
theorem mem_pathList_of_mem_places {place : Site × R × PathProperty R} :
    ∀ (site : Site) (p : Property R), place ∈ p.places site → place.2.2 ∈ p.pathList
  | _, .expr _, h => by
    rw [places] at h
    cases h
  | site, .not p, h => by
    rw [places] at h
    rw [pathList]
    exact mem_pathList_of_mem_places (0 :: site) p h
  | site, .combine _ _ ps, h => by
    rw [places] at h
    rw [pathList]
    exact mem_pathLists_of_mem_placesOf site 0 ps h
  | site, .threshold op bound path, h => by
    rw [places] at h
    rw [pathList_threshold]
    split_ifs at h
    · cases h
    · rw [List.mem_singleton.1 h]
      exact List.mem_cons_self

theorem mem_pathLists_of_mem_placesOf {place : Site × R × PathProperty R} (site : Site) :
    ∀ (i : ℕ) (ps : List (Property R)), place ∈ placesOf site i ps → place.2.2 ∈ pathLists ps
  | _, [], h => by
    rw [placesOf] at h
    cases h
  | i, p :: ps, h => by
    rw [placesOf] at h
    rw [pathLists]
    rcases List.mem_append.1 h with h | h
    · exact List.mem_append_left _ (mem_pathList_of_mem_places (i :: site) p h)
    · exact List.mem_append_right _ (mem_pathLists_of_mem_placesOf site (i + 1) ps h)

end

end Property

variable [Distributions R]

/-- The runs that are announced are from the state of the call, and of the numbers of some paths. -/
theorem Session.exists_path_of_began {sim : Simulator R G} {src : SampleSource R S} {p : Property R}
    {s t : State R} {v : Verifier R G} {source : S} {verdict : Bool}
    {τ : Session R G (S × List (SourceCall R))} {id : PropertyId}
    (h : verify sim src.logged p s ⟨v, (source, [])⟩ = .ok (verdict, τ))
    (hbegan : .began id t ∈ τ.source.2) : t = s ∧ ∃ path ∈ p.pathList, path.id = id := by
  obtain ⟨minutes, hminuted⟩ := (minutedVerify_sheds sim src.logged s p).exists_of_ok h []
  obtain ⟨_, σ, hstart, hdecide⟩ := Run.bind_eq_ok.1 hminuted
  cases hstart
  obtain ⟨new, hadds, hplaces⟩ := attends_decide sim src s [] p _ _ _ rfl hdecide
  have hcalls : τ.source.2 = new.flatMap (·.calls s) := hadds.calls
  rw [hcalls] at hbegan
  obtain ⟨m, hm, hbegan⟩ := List.mem_flatMap.1 hbegan
  obtain ⟨rfl, rfl⟩ := Minute.eq_of_began_mem hbegan
  have hplace : m.place ∈ p.places [] := hplaces.subset (List.mem_map_of_mem hm)
  exact ⟨rfl, m.path, p.mem_pathList_of_mem_places [] hplace, rfl⟩

/-! ### Tests of what has been found -/

/-- Feeds a test within a run of the number `id` by simulating what `find` has under this number, unless
the test is done from the start.  If there is nothing it does something else. -/
def completeFound (sim : Simulator R G) (src : SampleSource R S)
    (find : PropertyId → Option (PathProperty R))
    (other : ThresholdTest R → Run R (Session R G S) (ThresholdTest R)) (id : PropertyId) (s : State R)
    (nested : R) (t : ThresholdTest R) : Run R (Session R G S) (ThresholdTest R) :=
  if t.isDone then return t
  else match find id with
    | some path => completeTest src id s (simulate sim (path.checks sim) s nested) sim.fuel t
    | none => other t

/-- Decides a threshold by a test that simulates what is found. -/
def directedTest (sim : Simulator R G) (src : SampleSource R S)
    (find : PropertyId → Option (PathProperty R))
    (other : ThresholdTest R → Run R (Session R G S) (ThresholdTest R)) (s : State R) (bound : R)
    (path : PathProperty R) : Run R (Session R G S) Bool := do
  let u := path.checks sim
  let t ← openTest u bound s
  let nested := u.nestedError (← Run.params)
  let t ← completeFound sim src find other u.id s nested t
  closeTest u s t
  return t.accepts

/-- Expressions are evaluated in a state, and thresholds are tested from it by what has been found. -/
def Leaves.directed (sim : Simulator R G) (src : SampleSource R S)
    (find : PropertyId → Option (PathProperty R))
    (other : ThresholdTest R → Run R (Session R G S) (ThresholdTest R)) (s : State R) :
    Leaves R (Run R (Session R G S)) where
  expression e := Run.ofExcept (e.holds s)
  test _ bound path := Run.nested (directedTest sim src find other s bound path)

/-- Decides a property in a state by what has been found. -/
def Session.directedVerify (sim : Simulator R G) (src : SampleSource R S)
    (find : PropertyId → Option (PathProperty R))
    (other : ThresholdTest R → Run R (Session R G S) (ThresholdTest R)) (p : Property R) (s : State R) :
    Run R (Session R G S) Bool := do
  Run.modifyVerifier fun v => { v with stats := ∅, level := 0 }
  p.decide (Leaves.directed sim src find other s) []

section

variable (sim : Simulator R G) (src : SampleSource R S) {find : PropertyId → Option (PathProperty R)}
  (other : ThresholdTest R → Run R (Session R G S) (ThresholdTest R)) (s : State R)

theorem completeFound_eq {id : PropertyId} {path : PathProperty R} (hfind : find id = some path)
    (nested : R) (t : ThresholdTest R) :
    completeFound sim src find other id s nested t
      = completeTest src id s (simulate sim (path.checks sim) s nested) sim.fuel t := by
  unfold completeFound
  rw [hfind]
  split_ifs with ht
  · exact (completeTest_of_isDone ht id s sim.fuel).symm
  · rfl

/-- A test simulates its own path if this is what is found. -/
theorem runTest_eq_directedTest (bound : R) {path : PathProperty R}
    (hfind : find path.id = some path) :
    runTest sim src (path.checks sim) bound s = directedTest sim src find other s bound path := by
  have hfind' : find (path.checks sim).id = some path := hfind
  unfold runTest directedTest
  simp only [completeFound_eq sim src other s hfind']

mutual

/-- A check simulates its own paths if these are what is found. -/
theorem check_eq_directed : ∀ (site : Site) (p : Property R),
    (∀ path ∈ p.pathList, find path.id = some path) →
      check sim src p s = p.decide (Leaves.directed sim src find other s) site
  | _, .expr e, _ => by rw [check, Property.decide]; rfl
  | site, .not p, h => by
    rw [Property.pathList] at h
    rw [check, Property.decide, check_eq_directed (0 :: site) p h]
  | site, .combine c head ps, h => by
    rw [Property.pathList] at h
    rw [check, Property.decide, operands_eq_directed site 0 ps h]
    rfl
  | site, .threshold op bound path, h => by
    rw [Property.pathList_threshold] at h
    rw [check_eq_decide sim src s site, Property.decide, Property.decide]
    cases Property.trivialVerdict? op bound with
    | some verdict => rfl
    | none =>
      exact congrArg Run.nested
        (runTest_eq_directedTest sim src other s bound (h path List.mem_cons_self))

/-- So do the operands of a connective. -/
theorem operands_eq_directed (site : Site) : ∀ (i : ℕ) (ps : List (Property R)),
    (∀ path ∈ Property.pathLists ps, find path.id = some path) →
      operands sim src ps s = Property.decideAll (Leaves.directed sim src find other s) site i ps
  | _, [], _ => by rw [operands, Property.decideAll]
  | i, p :: ps, h => by
    rw [Property.pathLists] at h
    rw [operands, Property.decideAll,
      check_eq_directed (i :: site) p fun path hpath => h path (List.mem_append_left _ hpath),
      operands_eq_directed site (i + 1) ps fun path hpath => h path (List.mem_append_right _ hpath)]

end

end

/-! ### Whole verifications -/

/-- **Workers find what the checker simulates.**  If the numbers of all paths of a property are
distinct, then those that are collected are the paths of all thresholds, at any depth, each under its own
number; there are none if and only if no threshold occurs.  Under every number of which a verification
begins a run there is a path.  More than that, every verification, from whichever state, source and
verifier, and whether it ends or halts, is the one whose tests begin a run only of a number under which
there is a path, and simulate that path; so is every check of a part of the property, such as a side of a
path. -/
theorem Property.finds_what_is_simulated {p : Property R}
    (hdistinct : (p.pathList.map (·.id)).Nodup) :
    (∀ path, path ∈ p.paths ↔ p.HasPath path) ∧
      (∀ id path, p.path? id = some path ↔ path.id = id ∧ p.HasPath path) ∧
      (p.paths = [] ↔ p.isProbabilistic = false) ∧
      ∀ {G S : Type} (sim : Simulator R G) (src : SampleSource R S) (s : State R),
        (∀ v source verdict τ, Session.verify sim src.logged p s ⟨v, (source, [])⟩ = .ok (verdict, τ) →
          ∀ id t, .began id t ∈ τ.source.2 → t = s ∧ ∃ path, p.path? id = some path) ∧
        ∀ other : ThresholdTest R → Run R (Session R G S) (ThresholdTest R),
          Session.verify sim src p s = Session.directedVerify sim src p.path? other p s ∧
            ∀ q, p.Contains q →
              check sim src q s = q.decide (Leaves.directed sim src p.path? other s) [] := by
  have hfound (path : PathProperty R) (hpath : path ∈ p.pathList) : p.path? path.id = some path :=
    (path?_eq_some_iff hdistinct).2 ⟨rfl, mem_pathList_iff.1 hpath⟩
  refine ⟨fun _ => mem_paths_iff hdistinct, fun _ _ => path?_eq_some_iff hdistinct,
    paths_eq_nil_iff hdistinct, fun sim src s => ⟨?_, fun other => ⟨?_, fun q hq => ?_⟩⟩⟩
  · intro v source verdict τ h id t hbegan
    obtain ⟨ht, path, hpath, rfl⟩ := Session.exists_path_of_began h hbegan
    exact ⟨ht, path, hfound path hpath⟩
  · unfold Session.verify Session.directedVerify
    rw [check_eq_directed sim src other s [] p hfound]
  · exact check_eq_directed sim src other s [] q fun path hpath =>
      hfound path (hq.pathList_subset hpath)

/-! ### A path within a path -/

namespace Nesting

noncomputable abbrev distributions : Distributions Float := ⟨fun _ _ _ => 0, fun _ _ => 0⟩

/-- The path inside, which has the smallest number. -/
def inner : PathProperty Float := .unbounded ⟨1⟩ (.expr (.constant true)) (.expr (.constant false))

/-- The path around it. -/
def outer : PathProperty Float :=
  .until ⟨3⟩ 0 5 (.expr (.constant true)) (.threshold .atLeast 0.5 inner)

def property : Property Float :=
  .combine .conjunction none
    [.threshold .above 0.1 outer,
      .not (.threshold .atLeast 0.5 (.unbounded ⟨2⟩ (.expr (.constant true)) (.expr (.constant true))))]

theorem ids_distinct : (property.pathList.map (·.id)).Nodup := by decide +kernel

theorem property_hasPath_inner : property.HasPath inner :=
  ⟨.atLeast, 0.5, .operand .conjunction none List.mem_cons_self (.post .above 0.1 (.refl _))⟩

/-- The path inside is found under its number. -/
theorem finds_what_is_simulated_nesting :
    let _ := distributions
    property.paths.map (·.id) = [⟨1⟩, ⟨2⟩, ⟨3⟩] ∧ property.path? ⟨1⟩ = some inner ∧
      ∀ (sim : Simulator Float ℕ) (src : SampleSource Float ℕ)
        (other : ThresholdTest Float → Run Float (Session Float ℕ ℕ) (ThresholdTest Float))
        (s : State Float), Session.verify sim src property s
          = Session.directedVerify sim src property.path? other property s := by
  intro _
  obtain ⟨-, hfind, -, hruns⟩ := Property.finds_what_is_simulated ids_distinct
  exact ⟨by decide +kernel, (hfind _ _).2 ⟨rfl, property_hasPath_inner⟩,
    fun sim src other s => ((hruns sim src s).2 other).1⟩

end Nesting

end SimCheck
