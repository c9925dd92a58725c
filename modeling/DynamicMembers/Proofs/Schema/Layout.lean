import DynamicMembers.Proofs.Files.Listing
import DynamicMembers.Proofs.Text.Bytes
import DynamicMembers.Schema.Discovery
/-!
# Layouts — where a migration lies does not matter

Migrations are folded by name, and by path only where names are the same.  So what is loaded depends on nothing but the
names and texts of the files that are accepted, whatever their directories are, whatever else lies there, and whichever
order a walk takes (`load_by_name`).
-/
namespace DynamicMembers
namespace Files.Found

variable {l l' : List Found}

/-- **Files on different paths have one order**, whichever order they come in. -/
theorem sort_eq_of_perm (h : l.Perm l') (hpaths : (l.map Found.below).Nodup) : sort l = sort l' := by
  have hperm : (sort l).Perm (sort l') := (sort_perm l).trans (h.trans (sort_perm l').symm)
  refine List.Perm.eq_of_pairwise (fun f g hf hg hfg hgf => ?_) (pairwise_sort l) (pairwise_sort l') hperm
  have hkey : f.key = g.key := le_antisymm hfg hgf
  -- files of one key lie on one path, and there is only one of them in the list
  exact List.inj_on_of_nodup_map hpaths ((sort_perm l).mem_iff.1 hf)
    (h.mem_iff.2 ((sort_perm l').mem_iff.1 hg)) (congrArg (fun k => (ofLex k).2) hkey)

/-- **Files on different paths are sorted by the bytes of their names**, and of their paths where names are the same. -/
theorem pairwise_sort_bytes (hpaths : (l.map Found.below).Nodup) : (sort l).Pairwise (fun f g =>
    Text.bytes f.name < Text.bytes g.name ∨ f.name = g.name ∧ f.below.map Text.bytes < g.below.map Text.bytes) := by
  have hdifferent : (sort l).Pairwise (fun f g => f.below ≠ g.below) :=
    List.pairwise_map.1 (((sort_perm l).map Found.below).nodup_iff.2 hpaths)
  refine (pairwise_sort l).imp₂ (fun f g hle hne => ?_) hdifferent
  rcases Prod.Lex.toLex_le_toLex.1 hle with hname | ⟨hname, hbelow⟩
  · exact .inl (Text.bytes_lt hname)
  · exact .inr ⟨hname, Text.map_bytes_lt (lt_of_le_of_ne hbelow hne)⟩

theorem pairwise_sort_names (hnames : (l.map Found.name).Nodup) :
    (sort l).Pairwise (fun f g => f.name < g.name) := by
  have hdifferent : (sort l).Pairwise (fun f g => f.name ≠ g.name) :=
    List.pairwise_map.1 (((sort_perm l).map Found.name).nodup_iff.2 hnames)
  refine (pairwise_sort l).imp₂ (fun f g hle hne => ?_) hdifferent
  rcases Prod.Lex.toLex_le_toLex.1 hle with hname | ⟨hname, -⟩
  · exact hname
  · exact absurd hname hne

end Files.Found

namespace Schema

open Code (Stmt)
open Files (Found Tree)

/-- What is loaded when a walk comes upon files, the migrations being those with accepted names. -/
def loadFound (tree : Tree) (accepts : String → Bool) (parse : MigrationParser) (walked : List Found) :
    Answer Registry := do
  let migrations ← (Found.sort (walked.filter (accepts ·.name))).mapM (readMigration tree parse)
  pure (State.ofMigrations migrations).registry

/-- The name of a file with its text, or with what keeps it from being read. -/
def content (tree : Tree) (f : Found) : String × Except FileFault String := (f.name, tree.textAt f.place)

section

variable {tree tree' : Tree} {root : String} {files walked : List Found} {accepts : String → Bool}
  {parse : MigrationParser}

theorem load_eq_loadFound (hroot : tree.isDirectory root = true) (hwalk : tree.filesUnder root = .ok files)
    (pattern : Pattern) : load tree root pattern parse = loadFound tree pattern.isMatch parse files := by
  rw [load, if_pos hroot, discover, hwalk]
  rfl

theorem loadFound_of_ok {migrations : List (List Stmt)}
    (h : (Found.sort (walked.filter (accepts ·.name))).mapM (readMigration tree parse) = .ok migrations) :
    loadFound tree accepts parse walked = .ok (State.ofMigrations migrations).registry := by
  rw [loadFound, h]
  rfl

theorem loadFound_of_error {e : InferenceError}
    (h : (Found.sort (walked.filter (accepts ·.name))).mapM (readMigration tree parse) = .error e) :
    loadFound tree accepts parse walked = .error e := by
  rw [loadFound, h]
  rfl

/-- Only the names and texts of the accepted files count. -/
theorem mapM_readMigration (l : List Found) : l.mapM (readMigration tree parse) =
    (l.map (content tree)).mapM (fun c => Files.answer c.2 >>= parse) := by
  rw [List.mapM_map]
  rfl

theorem nodup_below_filter (hwalk : tree.filesUnder root = .ok files) :
    ((files.filter (accepts ·.name)).map Found.below).Nodup :=
  (List.filter_sublist.map Found.below).nodup (Tree.nodup_below_of_filesUnder hwalk)

/-- **The order in which a walk comes upon files changes nothing.** -/
theorem loadFound_eq_of_perm (hwalk : tree.filesUnder root = .ok files) (horder : walked.Perm files) :
    loadFound tree accepts parse walked = loadFound tree accepts parse files := by
  unfold loadFound
  rw [Found.sort_eq_of_perm (horder.filter _).symm (nodup_below_filter hwalk)]

/-- **Files of different names are told apart by their contents**: two layouts of them list the same contents. -/
theorem map_content_sort {l l' : List Found} (hnames : (l.map Found.name).Nodup)
    (h : (l.map (content tree)).Perm (l'.map (content tree'))) :
    (Found.sort l).map (content tree) = (Found.sort l').map (content tree') := by
  have hnames' : (l'.map Found.name).Nodup := by
    have hperm := h.map Prod.fst
    rw [List.map_map, List.map_map] at hperm
    exact hperm.nodup_iff.1 hnames
  have hperm : ((Found.sort l).map (content tree)).Perm ((Found.sort l').map (content tree')) :=
    ((Found.sort_perm l).map _).trans (h.trans ((Found.sort_perm l').map _).symm)
  have hsorted : ((Found.sort l).map (content tree)).Pairwise (fun c d => c.1 < d.1) :=
    List.pairwise_map.2 (Found.pairwise_sort_names hnames)
  have hsorted' : ((Found.sort l').map (content tree')).Pairwise (fun c d => c.1 < d.1) :=
    List.pairwise_map.2 (Found.pairwise_sort_names hnames')
  exact List.Perm.eq_of_pairwise (fun c d _ _ hcd hdc => absurd hcd (lt_asymm hdc)) hsorted hsorted' hperm

/-- **Migrations are folded by name, and nothing else about their files counts.**  From a walk that comes upon every
file below a directory, in any order: the accepted files are folded by name, and by path where names are the same; a
fault of one of them is the fault of the whole; and when their names are different, another tree with the same names and
texts among its accepted files loads the same, wherever they lie and whatever else it holds. -/
theorem load_by_name (hroot : tree.isDirectory root = true) (hwalk : tree.filesUnder root = .ok files)
    (horder : walked.Perm files) (accepts : String → Bool) (parse : MigrationParser) :
    let accepted := files.filter (accepts ·.name)
    let loaded := loadFound tree accepts parse walked
    (∀ pattern : Pattern, pattern.isMatch = accepts → load tree root pattern parse = loaded) ∧
    ((∀ f ∈ accepted, ∃ stmts, readMigration tree parse f = .ok stmts) →
      ∃ ordered migrations, ordered.Perm accepted ∧
        ordered.Pairwise (fun f g => Text.bytes f.name < Text.bytes g.name ∨
          f.name = g.name ∧ f.below.map Text.bytes < g.below.map Text.bytes) ∧
        ((accepted.map Found.name).Nodup →
          ordered.Pairwise (fun f g => Text.bytes f.name < Text.bytes g.name)) ∧
        List.Forall₂ (fun f stmts => readMigration tree parse f = .ok stmts) ordered migrations ∧
        loaded = .ok (State.ofMigrations migrations).registry) ∧
    ((∃ f ∈ accepted, ∃ e, readMigration tree parse f = .error e) →
      ∃ f ∈ accepted, ∃ e, readMigration tree parse f = .error e ∧ loaded = .error e) ∧
    ((accepted.map Found.name).Nodup → ∀ (tree' : Tree) (root' : String) (files' walked' : List Found),
      tree'.isDirectory root' = true → tree'.filesUnder root' = .ok files' → walked'.Perm files' →
      (accepted.map (content tree)).Perm ((files'.filter (accepts ·.name)).map (content tree')) →
        loadFound tree' accepts parse walked' = loaded) := by
  intro accepted loaded
  have hloaded : loaded = loadFound tree accepts parse files := loadFound_eq_of_perm hwalk horder
  have hmem : ∀ f, f ∈ Found.sort accepted ↔ f ∈ accepted := fun f => (Found.sort_perm accepted).mem_iff
  refine ⟨?_, fun hreadable => ?_, fun ⟨f, hf, e, hfault⟩ => ?_, ?_⟩
  · rintro pattern rfl
    rw [hloaded, load_eq_loadFound hroot hwalk]
  · cases hread : (Found.sort accepted).mapM (readMigration tree parse) with
    | error e =>
      obtain ⟨f, hf, hfault⟩ := exists_of_mapM_eq_error hread
      obtain ⟨stmts, hstmts⟩ := hreadable f ((hmem f).1 hf)
      rw [hstmts] at hfault
      cases hfault
    | ok migrations =>
      exact ⟨Found.sort accepted, migrations, Found.sort_perm accepted,
        Found.pairwise_sort_bytes (nodup_below_filter hwalk),
        fun hnames => (Found.pairwise_sort_names hnames).imp Text.bytes_lt, mapM_eq_ok_iff.1 hread,
        hloaded.trans (loadFound_of_ok hread)⟩
  · cases hread : (Found.sort accepted).mapM (readMigration tree parse) with
    | error e' =>
      obtain ⟨g, hg, hfirst⟩ := exists_of_mapM_eq_error hread
      exact ⟨g, (hmem g).1 hg, e', hfirst, hloaded.trans (loadFound_of_error hread)⟩
    | ok migrations =>
      obtain ⟨stmts, hstmts⟩ := exists_ok_of_mem hread f ((hmem f).2 hf)
      rw [hstmts] at hfault
      cases hfault
  · intro hnames tree' root' files' walked' _ hwalk' horder' hcontents
    rw [hloaded, loadFound_eq_of_perm hwalk' horder']
    unfold loadFound
    rw [mapM_readMigration, mapM_readMigration, map_content_sort hnames hcontents]

end

/-- Two migrations: one makes a table of users with their names, the other calls these titles. -/
def readText : MigrationParser
  | "make" => .ok [.classDecl none [.method "up" [.expression (.staticCall "Schema" "create" [.str "users",
      .closure ["t"] [.expression (.methodCall (.var "t") "string" [.str "name"])]])]]]
  | "call" => .ok [.classDecl none [.method "up" [.expression (.staticCall "Schema" "table" [.str "users",
      .closure ["t"] [.expression (.methodCall (.var "t") "renameColumn" [.str "name", .str "title"])]])]]]
  | text => .error (.parsing text)

def phpFiles : Pattern := (Pattern.ofText? "(?i)\\.php$").getD .nothing

def flatLayout : Tree := ⟨.ofList
  [(["db"], .directory), (["db", "2_call.php"], .file (some "call")), (["db", "1_make.PHP"], .file (some "make")),
   (["db", "1_make.md"], .file none)]⟩

def nestedLayout : Tree := ⟨.ofList
  [(["db"], .directory), (["db", "z"], .directory), (["db", "z", "1_make.PHP"], .file (some "make")),
   (["db", "a"], .directory), (["db", "a", "2_call.php"], .file (some "call")),
   (["db", "a", "0_notes"], .file (some "notes"))]⟩

def flatMake : Found := ⟨["1_make.PHP"], "1_make.PHP", ["db", "1_make.PHP"]⟩

def flatCall : Found := ⟨["2_call.php"], "2_call.php", ["db", "2_call.php"]⟩

def flatFiles : List Found := [flatCall, flatMake, ⟨["1_make.md"], "1_make.md", ["db", "1_make.md"]⟩]

def nestedFiles : List Found :=
  [⟨["z", "1_make.PHP"], "1_make.PHP", ["db", "z", "1_make.PHP"]⟩,
   ⟨["a", "2_call.php"], "2_call.php", ["db", "a", "2_call.php"]⟩,
   ⟨["a", "0_notes"], "0_notes", ["db", "a", "0_notes"]⟩]

def titledUsers : Registry :=
  ⟨.ofList [("users", { name := "users", columns := .ofList [("title", .ofStored "title" "string" false)] })]⟩

theorem load_by_name_nested :
    (flatLayout.isDirectory "db" = true ∧ flatLayout.filesUnder "db" = .ok flatFiles ∧
      flatFiles.reverse.Perm flatFiles) ∧
    (nestedLayout.isDirectory "db" = true ∧ nestedLayout.filesUnder "db" = .ok nestedFiles) ∧
    load flatLayout "db" phpFiles readText = .ok titledUsers ∧
    load nestedLayout "db" phpFiles readText = .ok titledUsers := by
  have hflat : flatLayout.isDirectory "db" = true := by decide +kernel
  have hflatFiles : flatLayout.filesUnder "db" = .ok flatFiles := by decide +kernel
  have hnested : nestedLayout.isDirectory "db" = true := by decide +kernel
  have hnestedFiles : nestedLayout.filesUnder "db" = .ok nestedFiles := by decide +kernel
  have hreverse : flatFiles.reverse.Perm flatFiles := List.reverse_perm flatFiles
  have haccepted : flatFiles.filter (phpFiles.isMatch ·.name) = [flatCall, flatMake] := by decide +kernel
  obtain ⟨hload, hfold, -, hlayout⟩ := load_by_name hflat hflatFiles hreverse phpFiles.isMatch readText
  obtain ⟨hload', -⟩ := load_by_name hnested hnestedFiles (List.Perm.refl _) phpFiles.isMatch readText
  rw [haccepted] at hfold hlayout
  have hnames : ([flatCall, flatMake].map Found.name).Nodup := by decide +kernel
  have hvalue : load flatLayout "db" phpFiles readText = .ok titledUsers := by
    obtain ⟨ordered, migrations, hperm, -, hbytes, hread, hloaded⟩ := hfold (fun f hf => by
      rcases List.mem_cons.1 hf with rfl | hf
      · exact ⟨_, rfl⟩
      · rw [List.mem_singleton.1 hf]
        exact ⟨_, rfl⟩)
    -- the order of the names leaves one list
    obtain rfl : ordered = [flatMake, flatCall] :=
      List.Perm.eq_of_pairwise (fun f g _ _ hfg hgf => absurd hfg (List.lt_asymm hgf)) (hbytes hnames)
        (by decide +kernel) (hperm.trans (List.Perm.swap _ _ _))
    obtain ⟨make, rest, hmake, hrest, rfl⟩ := List.forall₂_cons_left_iff.1 hread
    obtain ⟨call, none, hcall, hnone, rfl⟩ := List.forall₂_cons_left_iff.1 hrest
    cases hnone
    cases hmake
    cases hcall
    rw [hload phpFiles rfl, hloaded]
    decide +kernel
  have hsame := hlayout hnames nestedLayout "db" nestedFiles nestedFiles hnested hnestedFiles (List.Perm.refl _)
    (by decide +kernel)
  exact ⟨⟨hflat, hflatFiles, hreverse⟩, ⟨hnested, hnestedFiles⟩, hvalue,
    (hload' phpFiles rfl).trans (hsame.trans ((hload phpFiles rfl).symm.trans hvalue))⟩

end Schema
end DynamicMembers
