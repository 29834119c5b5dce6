import ResourceTables.Files.Tree
import ResourceTables.Proofs.Steps

/-!
# ResourceTables.Proofs.Files.View

Files as they answer. A view holds every answer about files at one time, whatever lies behind the
answers, and what only asks about files can be run on it. A tree of files has its view; an action that
gives on the tree what it gives on the view, and leaves the tree as it is, follows the tree
(`Volume.Follows`).
-/

namespace ResourceTables.Files

/-- The answers about files, by path. -/
structure View where
  isThere : String → Bool
  isDirectory : String → Bool
  isFile : String → Bool
  list : String → Except FileError (List String)
  readText : String → Except FileError String

instance : FileReader (ReaderM View) where
  isThere path := return (← read).isThere path
  isDirectory path := return (← read).isDirectory path
  isFile path := return (← read).isFile path
  list path := return (← read).list path
  readText path := return (← read).readText path

variable {ε α β : Type}

namespace View

/-- What an action gives that may fail and only asks about files. -/
def run (files : View) (x : ExceptT ε (ReaderM View) α) : Except ε α := Id.run (x.run.run files)

variable {files : View}

@[simp] theorem run_pure (a : α) : files.run (pure a : ExceptT ε (ReaderM View) α) = .ok a := rfl

@[simp] theorem run_throw (e : ε) :
    files.run (throw e : ExceptT ε (ReaderM View) α) = .error e := rfl

@[simp] theorem run_bind (x : ExceptT ε (ReaderM View) α) (f : α → ExceptT ε (ReaderM View) β) :
    files.run (x >>= f) = files.run x >>= fun a => files.run (f a) := by
  unfold run
  rw [ExceptT.run_bind, ReaderT.run_bind]
  cases x.run.run files <;> rfl

@[simp] theorem run_isDirectory (path : String) :
    files.run (FileReader.isDirectory path : ExceptT ε (ReaderM View) Bool) =
      .ok (files.isDirectory path) := rfl

@[simp] theorem run_isFile (path : String) :
    files.run (FileReader.isFile path : ExceptT ε (ReaderM View) Bool) =
      .ok (files.isFile path) := rfl

theorem run_mapM (l : List α) (f : α → ExceptT ε (ReaderM View) β) :
    files.run (l.mapM f) = l.mapM fun a => files.run (f a) := by
  induction l with
  | nil => rfl
  | cons a l ih =>
    rw [List.mapM_cons, List.mapM_cons, run_bind]
    congr 1
    funext b
    rw [run_bind, ih]
    rfl

theorem run_filterM {l : List String} {p : String → ExceptT ε (ReaderM View) Bool} {q : String → Bool}
    (h : ∀ a, files.run (p a) = .ok (q a)) : files.run (l.filterM p) = .ok (l.filter q) := by
  have haux (done : List String) :
      files.run (l.filterAuxM p done) = .ok ((l.filter q).reverse ++ done) := by
    induction l generalizing done with
    | nil => rfl
    | cons a l ih =>
      rw [List.filterAuxM, run_bind, h]
      show files.run (l.filterAuxM p _) = _
      rw [ih]
      cases ha : q a <;> simp [ha]
  rw [List.filterM, run_bind, haux, List.append_nil]
  exact congrArg Except.ok (List.reverse_reverse _)

end View

/-! ### Trees -/

namespace Volume

/-- The answers of a tree of files. -/
def view (v : Volume) : View where
  isThere path := (v.find path).toOption.isSome
  isDirectory := v.isDirectory
  isFile path := (v.find path).toOption.any fun t => !t.isDirectory
  list := v.list
  readText := v.readText

/-- An action gives on a tree what another one gives on its view, and the tree stays what it is. -/
def Follows (v : Volume) (x : ExceptT ε (StateM Volume) α) (y : ExceptT ε (ReaderM View) α) : Prop :=
  Id.run (x.run.run v) = (v.view.run y, v)

namespace Follows

variable {v : Volume}

theorem pure (a : α) : v.Follows (pure a : ExceptT ε (StateM Volume) α) (Pure.pure a) := rfl

theorem throw (e : ε) : v.Follows (throw e : ExceptT ε (StateM Volume) α) (MonadExcept.throw e) := rfl

theorem isDirectory (path : String) :
    v.Follows (FileReader.isDirectory path : ExceptT ε (StateM Volume) Bool)
      (FileReader.isDirectory path) := rfl

theorem isFile (path : String) :
    v.Follows (FileReader.isFile path : ExceptT ε (StateM Volume) Bool) (FileReader.isFile path) := rfl

theorem bind {x : ExceptT ε (StateM Volume) α} {y : ExceptT ε (ReaderM View) α}
    {f : α → ExceptT ε (StateM Volume) β} {g : α → ExceptT ε (ReaderM View) β} (h : v.Follows x y)
    (hf : ∀ a, v.Follows (f a) (g a)) : v.Follows (x >>= f) (y >>= g) := by
  unfold Follows at *
  have hx : x.run.run v = (v.view.run y, v) := h
  rw [View.run_bind, ExceptT.run_bind, StateT.run_bind, hx]
  cases v.view.run y with
  | ok a => exact hf a
  | error e => rfl

theorem mapM {l : List α} {f : α → ExceptT ε (StateM Volume) β} {g : α → ExceptT ε (ReaderM View) β}
    (h : ∀ a, v.Follows (f a) (g a)) : v.Follows (l.mapM f) (l.mapM g) := by
  induction l with
  | nil => exact .pure _
  | cons a l ih =>
    rw [List.mapM_cons, List.mapM_cons]
    exact (h a).bind fun b => ih.bind fun bs => .pure _

theorem filterM {l : List String} {p : String → ExceptT ε (StateM Volume) Bool}
    {q : String → ExceptT ε (ReaderM View) Bool} (h : ∀ a, v.Follows (p a) (q a)) :
    v.Follows (l.filterM p) (l.filterM q) := by
  have haux (done : List String) : v.Follows (l.filterAuxM p done) (l.filterAuxM q done) := by
    induction l generalizing done with
    | nil => exact .pure _
    | cons a l ih => exact (h a).bind fun b => ih _
  exact (haux []).bind fun l => .pure _

end Follows

end Volume

end ResourceTables.Files
