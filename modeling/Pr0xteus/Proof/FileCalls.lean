import Pr0xteus.ConfigInit

/-!
# What the writing functions leave behind

Each function that writes a file, by what it can leave in the tree when it returns or fails. A write
that is cut short is in the log; `cuts` are the places of these writes.
-/

namespace Pr0xteus.ConfigInit

open Encoding Effects

variable {os : Nat → Answer} {s t : Disk} {loc : Location} {contents : List UInt8} {u : Disk}
  {err? : Option ConfigError} {temporary : Location}

/-! ## Locations -/

/-- An element that stays when a path is cleaned. -/
def Proper (element : List Char) : Prop :=
  element ≠ [] ∧ element ≠ ['.'] ∧ element ≠ ['.', '.']

def cleanStep (kept : Location) (element : List Char) : Location :=
  if element = [] ∨ element = ['.'] then kept
  else if element = ['.', '.'] then kept.dropLast
  else kept ++ [element]

theorem cleanElements_eq (elements : Location) :
    Filepath.cleanElements elements = elements.foldl cleanStep [] := rfl

theorem foldl_cleanStep {elements : Location} (h : ∀ e ∈ elements, Proper e) (kept : Location) :
    elements.foldl cleanStep kept = kept ++ elements := by
  induction elements generalizing kept with
  | nil => exact (List.append_nil kept).symm
  | cons e elements ih =>
      obtain ⟨hempty, hdot, hdots⟩ := h e List.mem_cons_self
      have hstep : cleanStep kept e = kept ++ [e] := by
        simp [cleanStep, hempty, hdot, hdots]
      rw [List.foldl_cons, hstep, ih fun e he => h e (List.mem_cons_of_mem _ he), List.append_assoc]
      rfl

theorem proper_of_mem_cleanElements {elements : Location} {e : List Char}
    (he : e ∈ Filepath.cleanElements elements) : Proper e ∧ e ∈ elements := by
  have hfold : ∀ (l kept : Location), (∀ e ∈ kept, Proper e ∧ e ∈ elements) → l ⊆ elements →
      ∀ e ∈ l.foldl cleanStep kept, Proper e ∧ e ∈ elements := by
    intro l
    induction l with
    | nil => exact fun kept hkept _ => hkept
    | cons x l ih =>
        intro kept hkept hsub
        refine ih (cleanStep kept x) ?_ fun y hy => hsub (List.mem_cons_of_mem _ hy)
        unfold cleanStep
        split
        · exact hkept
        · next hplain =>
            split
            · exact fun e he => hkept e ((List.dropLast_subset kept) he)
            · next hdots =>
                intro e he
                rcases List.mem_append.mp he with he | he
                · exact hkept e he
                · cases List.mem_singleton.mp he
                  obtain ⟨hempty, hdot⟩ := not_or.mp hplain
                  exact ⟨⟨hempty, hdot, hdots⟩, hsub List.mem_cons_self⟩
  exact hfold elements [] nofun (List.Subset.refl _) e he

theorem elements_clean (path : String) :
    Filepath.elements (Filepath.clean path) = Filepath.elements path := by
  have hproper : ∀ e ∈ Filepath.elements path, Proper e := fun e he =>
    (proper_of_mem_cleanElements he).1
  have hslash : ∀ e ∈ Filepath.elements path, '/' ∉ e := fun e he =>
    Bytes.not_mem_of_mem_splitOn (proper_of_mem_cleanElements he).2
  rw [Filepath.clean, ← Filepath.elements]
  generalize Filepath.elements path = elements at hproper hslash
  rw [Filepath.elements, String.toList_ofList, List.splitOn_cons_eq_if_modifyHead]
  rw [if_pos (by rfl), cleanElements_eq, List.foldl_cons]
  change (List.splitOn '/' (['/'].intercalate elements)).foldl cleanStep [] = elements
  by_cases hnil : elements = []
  · subst hnil
    rfl
  · rw [List.splitOn_intercalate _ hslash hnil, foldl_cleanStep hproper, List.nil_append]

theorem elements_join {rel : String} {names : Location} (hrel : rel.toList.splitOn '/' = names)
    (hnames : ∀ e ∈ names, Proper e) (dir : String) :
    Filepath.elements (Filepath.join dir rel) = Filepath.elements dir ++ names := by
  have hsplit : (dir ++ "/" ++ rel).toList.splitOn '/' = dir.toList.splitOn '/' ++ names := by
    rw [String.toList_append, String.toList_append, List.append_assoc, List.splitOn_eq_splitOnP,
      ← hrel, List.splitOn_eq_splitOnP, List.splitOn_eq_splitOnP]
    exact List.splitOnP_append_cons _ _ (by rfl)
  rw [Filepath.join, elements_clean, Filepath.elements, hsplit, cleanElements_eq, List.foldl_append,
    foldl_cleanStep hnames, ← cleanElements_eq, ← Filepath.elements]

/-! ## The calls -/

namespace Disk

/-- The answer to the next call. -/
def next (s : Disk) (os : Nat → Answer) : Answer := os s.log.length

def asked (s : Disk) (os : Nat → Answer) (op : FileOp) : Disk :=
  { s with log := s.log ++ [(op, s.next os)] }

def put (s : Disk) (loc : Location) (node : Option Node) : Disk :=
  { s with tree := Function.update s.tree loc node }

end Disk

/-- Where a write was cut short. -/
def cutAt : FileOp × Answer → Option Location
  | (.write loc contents, a) => if a.err.isSome ∧ a.count < contents.length then some loc else none
  | _ => none

def Disk.cuts (s : Disk) : List Location := s.log.filterMap cutAt

@[simp] theorem tree_asked (op : FileOp) : (s.asked os op).tree = s.tree := rfl

@[simp] theorem tree_put (node : Option Node) :
    (s.put loc node).tree = Function.update s.tree loc node := rfl

@[simp] theorem cuts_put (node : Option Node) : (s.put loc node).cuts = s.cuts := rfl

theorem cuts_asked (s : Disk) (op : FileOp) :
    (s.asked os op).cuts = s.cuts ++ (cutAt (op, s.next os)).toList := by
  change (s.log ++ [(op, s.next os)]).filterMap cutAt = _
  rw [List.filterMap_append, ← Disk.cuts]
  cases h : cutAt (op, s.next os) <;> simp [h]

/-- A call that is no write. -/
theorem cuts_asked_other {op : FileOp} (hop : cutAt (op, s.next os) = none) :
    (s.asked os op).cuts = s.cuts := by
  rw [cuts_asked, hop, Option.toList_none, List.append_nil]

theorem runOn_ask (op : FileOp) : runOn (ask os op) s = (.ok (s.next os), s.asked os op) := rfl

theorem runOn_askAndGet {α : Type} (op : FileOp) (f : Answer → Disk → FileM α) :
    runOn (do let a ← ask os op; let s' ← get; f a s') s =
      runOn (f (s.next os) (s.asked os op)) (s.asked os op) := rfl

theorem runOn_orFail (err : Option String) (message : String) :
    runOn (orFail err message) s =
      (match err with
        | some reason => .error (.wrap (.system reason) message)
        | none => .ok (), s) := by
  cases err <;> rfl

theorem runOn_lstat : runOn (lstat os loc) s =
    (.ok (match (s.next os).err with
      | some reason => .error reason
      | none => .ok (s.tree loc)), s.asked os (.lstat loc)) := by
  unfold lstat
  rw [runOn_askAndGet]
  cases (s.next os).err <;> rfl

theorem runOn_close : runOn (close os loc) s = (.ok (s.next os).err, s.asked os (.close loc)) := rfl

theorem runOn_chmod (mode : Nat) :
    runOn (chmod os loc mode) s = (.ok (s.next os).err, s.asked os (.chmod loc mode)) := rfl

theorem runOn_write : runOn (write os loc contents) s =
    (.ok (s.next os).err, (s.asked os (.write loc contents)).put loc (some (.regular
      (if (s.next os).err.isSome then contents.take (s.next os).count else contents)))) := rfl

theorem runOn_create (mode : Nat) : runOn (create os loc mode) s =
    match (s.next os).err, s.tree loc with
    | some reason, _ => (.ok (some reason), s.asked os (.create loc mode))
    | none, some _ => (.ok (some "file exists"), s.asked os (.create loc mode))
    | none, none => (.ok none, (s.asked os (.create loc mode)).put loc (some (.regular []))) := by
  unfold create
  rw [runOn_askAndGet]
  dsimp only [tree_asked]
  cases (s.next os).err with
  | some reason => rfl
  | none => cases s.tree loc <;> rfl

/-! ## Exclusive creation -/

/-- The ways of a program that writes a new file. -/
inductive Created (s : Disk) (loc : Location) (contents : List UInt8) :
    Option ConfigError → Disk → Prop
  | refused (err : ConfigError) (t : Disk) (htree : t.tree = s.tree) (hcuts : t.cuts = s.cuts) :
      Created s loc contents (some err) t
  | full (err? : Option ConfigError) (t : Disk) (habsent : s.tree loc = none)
      (htree : t.tree = Function.update s.tree loc (some (.regular contents)))
      (hcuts : t.cuts = s.cuts) : Created s loc contents err? t
  | cut (err : ConfigError) (t : Disk) (n : Nat) (habsent : s.tree loc = none)
      (hn : n < contents.length)
      (htree : t.tree = Function.update s.tree loc (some (.regular (contents.take n))))
      (hcuts : t.cuts = s.cuts ++ [loc]) : Created s loc contents (some err) t

theorem closeOrFail (os : Nat → Answer) (s : Disk) (loc : Location) (message : String) :
    (runOn (do orFail (← close os loc) message) s).2.tree = s.tree ∧
      (runOn (do orFail (← close os loc) message) s).2.cuts = s.cuts := by
  rw [runOn_bind, runOn_close]
  dsimp only
  rw [runOn_orFail]
  exact ⟨rfl, cuts_asked_other rfl⟩

theorem closeAndThrow (os : Nat → Answer) (s : Disk) (loc : Location) (message : String)
    (err : ConfigError) :
    ∃ err' t, runOn (do orFail (← close os loc) message; throw err : FileM Unit) s = (.error err', t) ∧
      t.tree = s.tree ∧ t.cuts = s.cuts := by
  rw [runOn_bind, runOn_close]
  dsimp only
  rw [runOn_bind, runOn_orFail]
  cases (s.next os).err with
  | some | none => exact ⟨_, _, rfl, rfl, cuts_asked_other rfl⟩

theorem created_writeNewFile (os : Nat → Answer) (loc : Location) (contents : List UInt8) (s : Disk) :
    Created s loc contents (failure (runOn (writeNewFile os loc contents) s).1)
      (runOn (writeNewFile os loc contents) s).2 := by
  unfold writeNewFile
  rw [runOn_bind, runOn_create]
  cases (s.next os).err with
  | some reason => exact .refused _ _ rfl (cuts_asked_other rfl)
  | none =>
      cases habsent : s.tree loc with
      | some node => exact .refused _ _ rfl (cuts_asked_other rfl)
      | none =>
          dsimp only
          rw [runOn_bind, runOn_orFail]
          dsimp only
          -- the empty file is there
          generalize hu : (s.asked os (.create loc bootstrapFileMode)).put loc (some (.regular [])) = u
          have hucuts : u.cuts = s.cuts := by
            rw [← hu, cuts_put, cuts_asked_other rfl]
          have hutree : ∀ node, Function.update u.tree loc node = Function.update s.tree loc node := by
            intro node
            rw [← hu, tree_put, tree_asked, Function.update_idem]
          rw [runOn_bind, runOn_write]
          cases herr : (u.next os).err with
          | none =>
              refine .full _ _ habsent ((closeOrFail os _ loc _).1.trans ?_)
                ((closeOrFail os _ loc _).2.trans ?_)
              · exact hutree _
              · rw [cuts_put, cuts_asked_other (by simp [cutAt, herr]), hucuts]
          | some reason =>
              dsimp only
              obtain ⟨err, t, hrun, htree, hcuts⟩ := closeAndThrow os
                ((u.asked os (.write loc contents)).put loc
                  (some (.regular (contents.take (u.next os).count)))) loc
                "close partially written config file" (.wrap (.system reason) "write config file")
              rw [tree_put, tree_asked, hutree] at htree
              rw [cuts_put, cuts_asked, hucuts] at hcuts
              change Created s loc contents (failure (runOn _ _).1) (runOn _ _).2
              rw [Option.isSome_some, if_pos rfl, hrun]
              by_cases hcount : (u.next os).count < contents.length
              · refine .cut err t _ habsent hcount htree ?_
                rw [hcuts]
                simp [cutAt, herr, hcount]
              · refine .full _ t habsent ?_ ?_
                · rw [htree, List.take_of_length_le (Nat.le_of_not_lt hcount)]
                · rw [hcuts]
                  simp [cutAt, hcount]

theorem Created.of_same (h : Created u loc contents err? t) (htree : u.tree = s.tree)
    (hcuts : u.cuts = s.cuts) : Created s loc contents err? t := by
  cases h with
  | refused err t htree' hcuts' => exact .refused err t (htree'.trans htree) (hcuts'.trans hcuts)
  | full err? t habsent htree' hcuts' =>
      exact .full _ t (htree ▸ habsent) (htree ▸ htree') (hcuts'.trans hcuts)
  | cut err t n habsent hn htree' hcuts' =>
      exact .cut err t n (htree ▸ habsent) hn (htree ▸ htree') (hcuts ▸ hcuts')

/-- The ways of `writeFileIfAbsent`: a file that is there is left alone. -/
inductive WroteIfAbsent (s : Disk) (loc : Location) (contents : List UInt8) :
    Except ConfigError Bool → Disk → Prop
  | present (t : Disk) (old : List UInt8) (hpresent : s.tree loc = some (.regular old))
      (htree : t.tree = s.tree) (hcuts : t.cuts = s.cuts) :
      WroteIfAbsent s loc contents (.ok false) t
  | created (result : Except ConfigError Bool) (t : Disk) (hresult : result ≠ .ok false)
      (hcreated : Created s loc contents (failure result) t) :
      WroteIfAbsent s loc contents result t

theorem wroteIfAbsent (os : Nat → Answer) (path : String) (contents : List UInt8) (s : Disk) :
    WroteIfAbsent s (Filepath.elements path) contents (runOn (writeFileIfAbsent os path contents) s).1
      (runOn (writeFileIfAbsent os path contents) s).2 := by
  unfold writeFileIfAbsent
  generalize Filepath.elements path = loc
  rw [runOn_bind, runOn_lstat]
  dsimp only
  cases (s.next os).err with
  | some reason => exact .created _ _ nofun (.refused _ _ rfl (cuts_asked_other rfl))
  | none =>
      dsimp only
      cases habsent : s.tree loc with
      | some node =>
          cases node with
          | regular old => exact .present _ old habsent rfl (cuts_asked_other rfl)
          | directory | symlink | other =>
              exact .created _ _ nofun (.refused _ _ rfl (cuts_asked_other rfl))
      | none =>
          dsimp only
          rw [runOn_bind]
          have hcreated := created_writeNewFile os loc contents (s.asked os (.lstat loc))
          generalize runOn (writeNewFile os loc contents) (s.asked os (.lstat loc)) = outcome at hcreated
          obtain ⟨result, t⟩ := outcome
          have hsame := hcreated.of_same (tree_asked _) (cuts_asked_other rfl)
          cases result with
          | error err => exact .created _ _ nofun hsame
          | ok _ => exact .created _ _ nofun hsame

/-! ## Replacement through a temporary file -/

theorem runOn_rename (source target : Location) : runOn (rename os source target) s =
    match (s.next os).err, s.tree source with
    | some reason, _ => (.ok (some reason), s.asked os (.rename source target))
    | none, none => (.ok (some "no such file or directory"), s.asked os (.rename source target))
    | none, some node => (.ok none,
        ((s.asked os (.rename source target)).put target (some node)).put source none) := by
  unfold rename
  rw [runOn_askAndGet]
  dsimp only [tree_asked]
  cases (s.next os).err with
  | some reason => rfl
  | none => cases s.tree source <;> rfl

/-- The ways from the temporary file to its new name. -/
inductive Replaced (s : Disk) (temporary target : Location) (contents : List UInt8) :
    Except ConfigError Unit → Disk → Prop
  | failed (err : ConfigError) (t : Disk) (node : Option Node)
      (htree : t.tree = Function.update s.tree temporary node)
      (hcuts : t.cuts ⊆ temporary :: s.cuts) : Replaced s temporary target contents (.error err) t
  | replaced (t : Disk)
      (htree : t.tree = Function.update (Function.update s.tree target (some (.regular contents)))
        temporary none)
      (hcuts : t.cuts = s.cuts) : Replaced s temporary target contents (.ok ()) t

theorem update_renamed (tree : Tree) (temporary target : Location) (node node' : Option Node) :
    Function.update (Function.update (Function.update tree temporary node) target node') temporary none =
      Function.update (Function.update tree target node') temporary none := by
  by_cases hne : temporary = target
  · simp only [hne, Function.update_idem]
  · rw [Function.update_comm hne, Function.update_idem]

/-- Behind the write: the temporary file is closed and takes the place of the target. -/
theorem replaced_closeAndRename (os : Nat → Answer) (target : Location) {v : Disk}
    (htree : v.tree = Function.update s.tree temporary (some (.regular contents)))
    (hcuts : v.cuts = s.cuts) :
    let finish : FileM Unit := do
      orFail (← close os temporary) "close config example"
      orFail (← rename os temporary target) "replace config example"
    Replaced s temporary target contents (runOn finish v).1 (runOn finish v).2 := by
  dsimp only
  have hsubset : v.cuts ⊆ temporary :: s.cuts := by
    rw [hcuts]
    exact List.subset_cons_self _ _
  rw [runOn_bind, runOn_close]
  dsimp only
  rw [runOn_bind, runOn_orFail]
  cases (v.next os).err with
  | some reason =>
      refine .failed _ _ _ htree ?_
      rw [cuts_asked_other rfl]
      exact hsubset
  | none =>
      dsimp only
      generalize hx : v.asked os (.close temporary) = x
      have hxtree : x.tree = v.tree := by rw [← hx, tree_asked]
      have hxcuts : x.cuts = v.cuts := by rw [← hx, cuts_asked_other rfl]
      rw [runOn_bind, runOn_rename]
      cases (x.next os).err with
      | some reason =>
          refine .failed _ _ _ (hxtree.trans htree) ?_
          change (x.asked os (.rename temporary target)).cuts ⊆ _
          rw [cuts_asked_other rfl, hxcuts]
          exact hsubset
      | none =>
          rw [hxtree, htree, Function.update_self]
          refine .replaced _ ?_ ?_
          · change Function.update (Function.update x.tree target _) temporary none = _
            rw [hxtree, htree, update_renamed]
          · change (x.asked os (.rename temporary target)).cuts = _
            rw [cuts_asked_other rfl, hxcuts, hcuts]

theorem replaced_replaceThrough (os : Nat → Answer) (temporary target : Location)
    (contents : List UInt8) (mode : Nat) (s : Disk) :
    Replaced s temporary target contents
      (runOn (replaceThrough os temporary target contents mode) s).1
      (runOn (replaceThrough os temporary target contents mode) s).2 := by
  unfold replaceThrough
  rw [runOn_bind, runOn_chmod]
  cases (s.next os).err with
  | some reason =>
      refine .failed _ _ (s.tree temporary) (Function.update_eq_self _ _).symm ?_
      change ((s.asked os _).asked os (.close temporary)).cuts ⊆ _
      rw [cuts_asked_other rfl, cuts_asked_other rfl]
      exact List.subset_cons_self _ _
  | none =>
      dsimp only
      rw [runOn_bind, runOn_write]
      generalize hu : s.asked os (.chmod temporary mode) = u
      have hutree : u.tree = s.tree := by rw [← hu, tree_asked]
      have hucuts : u.cuts = s.cuts := by rw [← hu, cuts_asked_other rfl]
      cases herr : (u.next os).err with
      | some reason =>
          refine .failed _ _ _ (congrArg (Function.update · temporary _) hutree) ?_
          change (Disk.asked _ os (.close temporary)).cuts ⊆ _
          rw [cuts_asked_other rfl, cuts_put, cuts_asked, hucuts]
          refine List.append_subset.mpr ⟨List.subset_cons_self _ _, ?_⟩
          unfold cutAt
          dsimp only
          split <;> simp
      | none =>
          refine replaced_closeAndRename os target ?_ ?_
          · rw [tree_put, tree_asked, hutree]
            rfl
          · rw [cuts_put, cuts_asked_other (by simp [cutAt, herr]), hucuts]

theorem runOn_createTemp (dir : Location) (stem : String) : runOn (createTemp os dir stem) s =
    match (s.next os).err, s.tree (dir ++ [stem.toList ++ (s.next os).name]) with
    | some reason, _ => (.ok (.error reason), s.asked os (.createTemp dir))
    | none, some _ => (.ok (.error "file exists"), s.asked os (.createTemp dir))
    | none, none => (.ok (.ok (dir ++ [stem.toList ++ (s.next os).name])),
        (s.asked os (.createTemp dir)).put (dir ++ [stem.toList ++ (s.next os).name])
          (some (.regular []))) := by
  unfold createTemp
  dsimp only
  rw [runOn_askAndGet]
  dsimp only [tree_asked]
  cases (s.next os).err with
  | some reason => rfl
  | none => cases s.tree (dir ++ [stem.toList ++ (s.next os).name]) <;> rfl

/-- A location that `os.CreateTemp` may choose beside a path. -/
def IsTemporary (loc temporary : Location) : Prop :=
  ∃ name, temporary = loc.dropLast ++ [".env.example-".toList ++ name]

/-- The ways of `writeRefreshedFile`: the file is as before or replaced, and a temporary one may be
left. -/
inductive Refreshed (s : Disk) (loc : Location) (contents : List UInt8) :
    Option ConfigError → Disk → Prop
  | refused (err : ConfigError) (t : Disk) (htree : t.tree = s.tree) (hcuts : t.cuts = s.cuts) :
      Refreshed s loc contents (some err) t
  | failed (err : ConfigError) (t : Disk) (temporary : Location) (node : Option Node)
      (htemporary : IsTemporary loc temporary) (habsent : s.tree temporary = none)
      (htree : t.tree = Function.update s.tree temporary node)
      (hcuts : t.cuts ⊆ temporary :: s.cuts) : Refreshed s loc contents (some err) t
  | replaced (t : Disk) (htree : t.tree = Function.update s.tree loc (some (.regular contents)))
      (hcuts : t.cuts = s.cuts) : Refreshed s loc contents none t

theorem tree_remove (os : Nat → Answer) (s : Disk) (loc : Location) :
    ∃ err t, runOn (remove os loc) s = (.ok err, t) ∧ t.cuts = s.cuts ∧
      (t.tree = s.tree ∨ t.tree = Function.update s.tree loc none) := by
  unfold remove
  rw [runOn_bind, runOn_ask]
  dsimp only
  cases (s.next os).err with
  | some reason => exact ⟨_, _, rfl, cuts_asked_other rfl, .inl rfl⟩
  | none => exact ⟨_, _, rfl, cuts_asked_other rfl, .inr rfl⟩

theorem disk_validateExamplePath (os : Nat → Answer) (path : String) (s : Disk) :
    (runOn (validateExamplePath os path) s).2 = s.asked os (.lstat (Filepath.elements path)) := by
  unfold validateExamplePath
  rw [runOn_bind, runOn_lstat]
  dsimp only
  cases (s.next os).err with
  | some reason => rfl
  | none =>
      dsimp only
      cases s.tree (Filepath.elements path) with
      | none => rfl
      | some node => cases node <;> rfl

theorem runOn_check {α : Type} (result : Except ConfigError α) : runOn (check result) s = (result, s) := by
  cases result <;> rfl

/-- The temporary file is gone, and the target has its contents. -/
theorem update_temporary {tree : Tree} (node : Option Node) (habsent : tree temporary = none)
    (hne : temporary ≠ loc) :
    Function.update (Function.update tree loc node) temporary none = Function.update tree loc node := by
  refine Function.update_eq_self_iff.mpr ?_
  rw [Function.update_of_ne hne, habsent]

/-- The temporary file is made in `w`, written and renamed up to `x`, and removed in `y`. -/
theorem refreshed_of_replaced {w x y : Disk} {result : Except ConfigError Unit}
    (hname : ¬ IsTemporary loc loc) (htemp : IsTemporary loc temporary)
    (habsent : s.tree temporary = none)
    (hwtree : w.tree = Function.update s.tree temporary (some (.regular [])))
    (hwcuts : w.cuts = s.cuts) (h : Replaced w temporary loc contents result x)
    (hytree : y.tree = x.tree ∨ y.tree = Function.update x.tree temporary none)
    (hycuts : y.cuts = x.cuts) : Refreshed s loc contents (failure result) y := by
  cases h with
  | failed err x node htree hcuts =>
      rw [hwcuts, ← hycuts] at hcuts
      rw [hwtree, Function.update_idem] at htree
      rcases hytree with hytree | hytree
      · exact .failed err y temporary node htemp habsent (hytree.trans htree) hcuts
      · refine .failed err y temporary none htemp habsent ?_ hcuts
        rw [hytree, htree, Function.update_idem]
  | replaced x htree hcuts =>
      have hne : temporary ≠ loc := by
        rintro rfl
        exact hname htemp
      rw [hwtree, update_renamed, update_temporary _ habsent hne] at htree
      refine .replaced y ?_ (hycuts.trans (hcuts.trans hwcuts))
      rcases hytree with hytree | hytree
      · exact hytree.trans htree
      · rw [hytree, htree, update_temporary _ habsent hne]

theorem refreshed_writeRefreshedFile (os : Nat → Answer) (path : String) (contents : List UInt8)
    (mode : Nat) (s : Disk) (hname : ¬ IsTemporary (Filepath.elements path) (Filepath.elements path)) :
    Refreshed s (Filepath.elements path) contents
      (failure (runOn (writeRefreshedFile os path contents mode) s).1)
      (runOn (writeRefreshedFile os path contents mode) s).2 := by
  unfold writeRefreshedFile
  rw [runOn_bind]
  have hvalidated := disk_validateExamplePath os path s
  generalize runOn (validateExamplePath os path) s = outcome at hvalidated
  generalize Filepath.elements path = loc at hname hvalidated ⊢
  obtain ⟨result, u⟩ := outcome
  change u = _ at hvalidated
  have hutree : u.tree = s.tree := by rw [hvalidated, tree_asked]
  have hucuts : u.cuts = s.cuts := by rw [hvalidated, cuts_asked_other rfl]
  cases result with
  | error err => exact .refused err u hutree hucuts
  | ok _ =>
      dsimp only
      rw [runOn_bind, runOn_createTemp]
      generalize htemporary : loc.dropLast ++ [".env.example-".toList ++ (u.next os).name] = temporary
      have hasked : (u.asked os (.createTemp loc.dropLast)).cuts = s.cuts := by
        rw [cuts_asked_other rfl, hucuts]
      cases (u.next os).err with
      | some reason => exact .refused _ _ hutree hasked
      | none =>
          cases habsent : u.tree temporary with
          | some node => exact .refused _ _ hutree hasked
          | none =>
              dsimp only
              rw [runOn_bind, runOn_observe]
              generalize hw : (u.asked os (.createTemp loc.dropLast)).put temporary
                (some (.regular [])) = w
              have hwtree : w.tree = Function.update s.tree temporary (some (.regular [])) := by
                rw [← hw, tree_put, tree_asked, hutree]
              have hwcuts : w.cuts = s.cuts := by rw [← hw, cuts_put, hasked]
              have hreplaced := replaced_replaceThrough os temporary loc contents mode w
              generalize runOn (replaceThrough os temporary loc contents mode) w = outcome at hreplaced
              obtain ⟨result, x⟩ := outcome
              dsimp only at hreplaced ⊢
              obtain ⟨err, y, hremove, hycuts, hytree⟩ := tree_remove os x temporary
              rw [runOn_bind, hremove]
              dsimp only
              rw [runOn_check]
              exact refreshed_of_replaced hname ⟨_, htemporary.symm⟩ (hutree ▸ habsent) hwtree hwcuts
                hreplaced hytree hycuts

/-! ## Directories -/

theorem tree_mkdirAll (os : Nat → Answer) (loc : Location) (mode : Nat) (s : Disk) (l : Location) :
    ∃ err t, runOn (mkdirAll os loc mode) s = (.ok err, t) ∧ t.cuts = s.cuts ∧
      (t.tree l = s.tree l ∨ s.tree l = none ∧ l <+: loc ∧ t.tree l = some .directory) := by
  unfold mkdirAll
  rw [runOn_bind, runOn_ask]
  dsimp only
  rw [runOn_bind, runOn_modify]
  have hway : (if (s.next os).err.isSome then loc.inits.take (s.next os).count else loc.inits) ⊆
      loc.inits := by
    split
    · exact List.take_subset _ _
    · exact List.Subset.refl _
  generalize (if (s.next os).err.isSome then loc.inits.take (s.next os).count else loc.inits) = made
    at hway
  refine ⟨_, _, rfl, cuts_asked_other rfl, ?_⟩
  dsimp only
  split
  · next hmade => exact .inr ⟨hmade.2, (List.mem_inits _ _).mp (hway hmade.1), rfl⟩
  · exact .inl rfl

/-- Directories are made where nothing was, on the way to the path. -/
theorem tree_ensurePrivateDirectory (os : Nat → Answer) (path : String) (s : Disk) (l : Location) :
    let t := (runOn (ensurePrivateDirectory os path) s).2
    t.cuts = s.cuts ∧ (t.tree l = s.tree l ∨
      s.tree l = none ∧ l <+: Filepath.elements path ∧ t.tree l = some .directory) := by
  unfold ensurePrivateDirectory
  generalize Filepath.elements path = loc
  rw [runOn_bind, runOn_lstat]
  dsimp only
  cases (s.next os).err with
  | some reason => exact ⟨cuts_asked_other rfl, .inl rfl⟩
  | none =>
      dsimp only
      cases s.tree loc with
      | some node => cases node <;> exact ⟨cuts_asked_other rfl, .inl rfl⟩
      | none =>
          dsimp only
          obtain ⟨err, u, hmkdir, hucuts, hutree⟩ :=
            tree_mkdirAll os loc bootstrapDirectoryMode (s.asked os (.lstat loc)) l
          rw [cuts_asked_other rfl] at hucuts
          rw [runOn_bind, hmkdir]
          dsimp only
          rw [runOn_bind, runOn_orFail]
          cases err with
          | some reason => exact ⟨hucuts, hutree⟩
          | none =>
              dsimp only
              rw [runOn_bind, runOn_chmod]
              dsimp only
              rw [runOn_orFail]
              exact ⟨(cuts_asked_other rfl).trans hucuts, hutree⟩

/-! ## The managed line -/

/-- The ways of `upsertDotEnvValue`. -/
inductive Upserted (s : Disk) (loc : Location) (key value : List UInt8) :
    Option ConfigError → Disk → Prop
  | same (err? : Option ConfigError) (t : Disk) (htree : t.tree = s.tree) (hcuts : t.cuts = s.cuts) :
      Upserted s loc key value err? t
  | refreshed (err? : Option ConfigError) (t : Disk) (old : List UInt8)
      (hold : s.tree loc = some (.regular old))
      (h : Refreshed s loc (replaceDotEnvValue old key value) err? t) :
      Upserted s loc key value err? t

theorem Refreshed.of_same (h : Refreshed u loc contents err? t) (htree : u.tree = s.tree)
    (hcuts : u.cuts = s.cuts) : Refreshed s loc contents err? t := by
  cases h with
  | refused err t htree' hcuts' => exact .refused err t (htree'.trans htree) (hcuts'.trans hcuts)
  | failed err t temporary node htemporary habsent htree' hcuts' =>
      exact .failed err t temporary node htemporary (htree ▸ habsent) (htree ▸ htree') (hcuts ▸ hcuts')
  | replaced t htree' hcuts' => exact .replaced t (htree ▸ htree') (hcuts'.trans hcuts)

theorem Upserted.of_same {key value : List UInt8} (h : Upserted u loc key value err? t)
    (htree : u.tree = s.tree) (hcuts : u.cuts = s.cuts) : Upserted s loc key value err? t := by
  cases h with
  | same htree' hcuts' => exact .same _ _ (htree'.trans htree) (hcuts'.trans hcuts)
  | refreshed old hold hrefreshed =>
      exact .refreshed _ _ old (htree ▸ hold) (hrefreshed.of_same htree hcuts)

theorem readRegularDotEnv_cases (os : Nat → Answer) (path : String) (s : Disk) :
    ∃ result t, runOn (readRegularDotEnv os path) s = (result, t) ∧ t.tree = s.tree ∧
      t.cuts = s.cuts ∧
      ∀ old, result = .ok old → s.tree (Filepath.elements path) = some (.regular old) := by
  unfold readRegularDotEnv
  generalize Filepath.elements path = loc
  rw [runOn_bind, runOn_lstat]
  dsimp only
  cases (s.next os).err with
  | some reason => exact ⟨_, _, rfl, rfl, cuts_asked_other rfl, nofun⟩
  | none =>
      dsimp only
      cases hnode : s.tree loc with
      | none => exact ⟨_, _, rfl, rfl, cuts_asked_other rfl, nofun⟩
      | some node =>
          cases node with
          | directory | symlink | other => exact ⟨_, _, rfl, rfl, cuts_asked_other rfl, nofun⟩
          | regular old =>
              dsimp only
              rw [runOn_bind]
              unfold readFile
              rw [runOn_askAndGet]
              dsimp only [tree_asked]
              have hcuts : ((s.asked os (.lstat loc)).asked os (.readFile loc)).cuts = s.cuts := by
                rw [cuts_asked_other rfl, cuts_asked_other rfl]
              rw [hnode]
              cases ((s.asked os (.lstat loc)).next os).err with
              | some reason => exact ⟨_, _, rfl, rfl, hcuts, nofun⟩
              | none =>
                  refine ⟨_, _, rfl, rfl, hcuts, fun old' hold => ?_⟩
                  cases hold
                  rfl

theorem upserted_upsertDotEnvValue (os : Nat → Answer) (path : String) (key value : List UInt8)
    (s : Disk) (hname : ¬ IsTemporary (Filepath.elements path) (Filepath.elements path)) :
    Upserted s (Filepath.elements path) key value
      (failure (runOn (upsertDotEnvValue os path key value) s).1)
      (runOn (upsertDotEnvValue os path key value) s).2 := by
  unfold upsertDotEnvValue
  obtain ⟨result, u, hread, hutree, hucuts, hold⟩ := readRegularDotEnv_cases os path s
  rw [runOn_bind, hread]
  cases result with
  | error err => exact .same _ u hutree hucuts
  | ok old =>
      dsimp only
      split
      · exact .same _ u hutree hucuts
      · have hrefreshed := refreshed_writeRefreshedFile os path (replaceDotEnvValue old key value)
          bootstrapFileMode u hname
        exact .refreshed _ _ old (hold old rfl) (hrefreshed.of_same hutree hucuts)

end Pr0xteus.ConfigInit
