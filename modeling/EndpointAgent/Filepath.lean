import Mathlib.Data.String.Basic

/-!
# Lexical paths

The part of Go's `path/filepath` the agent calls: `Clean`, and `Join`, which cleans what it
joins. `Clean` reads a path as elements between separators and keeps a stack of them: empty
and `.` elements go, `..` takes back the last name, is dropped at the root, and is kept in
front of a relative path. The stack is therefore some names over a run of `..` that only a
relative path has (`StackOK`), and reading a cleaned path again gives back the same elements,
so `Clean` is idempotent. `Dir` of a name joined to a clean directory is that directory.
Volume names of Windows paths (`C:`, `\\host\share`) are not modelled.
-/

set_option autoImplicit false

namespace EndpointAgent.Filepath

/-- A path element: the characters between two separators. -/
abbrev Element := List Char

/-- The separators of a platform: the one `Clean` writes, and the ones it reads. -/
structure Separators where
  sep : Char
  isSep : Char → Bool
  sep_isSep : isSep sep = true
  dot_not_sep : isSep '.' = false

/-- `/` on Unix. -/
def unix : Separators := ⟨'/', fun c => c == '/', rfl, rfl⟩

/-- `\` on Windows, which also reads `/`. -/
def windows : Separators := ⟨'\\', fun c => c == '\\' || c == '/', rfl, rfl⟩

/-- One element of `Clean`'s loop, with `out` the elements kept so far, last first. -/
def cleanStep (rooted : Bool) (out : List Element) (elem : Element) : List Element :=
  if elem = [] ∨ elem = ['.'] then out
  else if elem = ['.', '.'] then
    match out with
    | last :: kept => if last = ['.', '.'] then elem :: out else kept
    | [] => if rooted then [] else [elem]
  else elem :: out

namespace Separators

variable (s : Separators)

/-- A path is rooted when it starts with a separator. -/
def isRooted : List Char → Bool
  | c :: _ => s.isSep c
  | [] => false

/-- What `Clean` keeps of a path: whether it is rooted, and its elements in order. -/
def elements (path : String) : Bool × List Element :=
  (s.isRooted path.data, ((path.data.splitOnP s.isSep).foldl (cleanStep (s.isRooted path.data)) []).reverse)

/-- The text of a cleaned path; no elements is `/` at the root and `.` elsewhere. -/
def render : Bool × List Element → String
  | (true, kept) => ⟨s.sep :: [s.sep].intercalate kept⟩
  | (false, []) => "."
  | (false, first :: rest) => ⟨[s.sep].intercalate (first :: rest)⟩

/-- `filepath.Clean`. -/
def clean (path : String) : String := s.render (s.elements path)

/-- `filepath.Join`: the arguments from the first non-empty one on, joined by the separator and
cleaned; `""` when all are empty. -/
def join (elems : List String) : String :=
  match elems.dropWhile String.isEmpty with
  | [] => ""
  | rest => s.clean (s.sep.toString.intercalate rest)

/-- `filepath.Dir`: the path up to its last separator, cleaned; `.` when it has none. -/
def dir (path : String) : String := s.clean ⟨(path.data.reverse.dropWhile fun c => !s.isSep c).reverse⟩

/-- `filepath.Base`: the last element once trailing separators are dropped; `.` for the empty
path and the separator for a path of separators only. -/
def base (path : String) : String :=
  if path.data = [] then "."
  else
    match ((path.data.reverse.dropWhile s.isSep).takeWhile fun c => !s.isSep c).reverse with
    | [] => s.sep.toString
    | last => ⟨last⟩

/-- `path`, read as `Clean` reads it, names an entry strictly below the directory `dir`: the
same root, and `dir`'s elements followed by more names. -/
def Within (dir path : String) : Prop :=
  (s.elements dir).1 = (s.elements path).1 ∧ (s.elements dir).2 <+: (s.elements path).2 ∧
    (s.elements dir).2.length < (s.elements path).2.length ∧
    ['.', '.'] ∉ (s.elements path).2.drop (s.elements dir).2.length

instance (dir path : String) : Decidable (s.Within dir path) := by
  unfold Within
  infer_instance

/-- An element `Clean` keeps as a name: not empty, not `.` or `..`, and free of separators. -/
def IsName (e : Element) : Prop :=
  e ≠ [] ∧ e ≠ ['.'] ∧ e ≠ ['.', '.'] ∧ ∀ c ∈ e, s.isSep c = false

/-- The stack of `Clean`'s loop: names, last first, over a run of `..` that a rooted path
never has. -/
def StackOK (rooted : Bool) (stack : List Element) : Prop :=
  ∃ names ups, stack = names ++ List.replicate ups ['.', '.'] ∧ (∀ e ∈ names, s.IsName e) ∧
    (rooted = true → ups = 0)

/-! ## Splitting at separators -/

variable {s}

private theorem splitOnP_no_sep (p : Char → Bool) (xs : List Char) : ∀ e ∈ xs.splitOnP p, ∀ c ∈ e, p c = false := by
  induction xs with
  | nil => simp
  | cons x xs ih =>
    obtain ⟨hd, tl, split⟩ := List.exists_cons_of_ne_nil (List.splitOnP_ne_nil p xs)
    rw [split] at ih
    rw [List.splitOnP_cons, split]
    by_cases sep : p x
    · simpa [sep] using ih
    · rw [if_neg sep, List.modifyHead_cons]
      intro e mem c charMem
      rcases List.mem_cons.mp mem with rfl | mem
      · rcases List.mem_cons.mp charMem with rfl | inHd
        · simpa using sep
        · exact ih hd (List.mem_cons_self _ _) c inHd
      · exact ih e (List.mem_cons_of_mem _ mem) c charMem

private theorem splitOnP_append_sep (p : Char → Bool) (xs ys : List Char) {sep : Char} (isSep : p sep = true) :
    (xs ++ sep :: ys).splitOnP p = xs.splitOnP p ++ ys.splitOnP p := by
  induction xs with
  | nil => simp [isSep]
  | cons x xs ih =>
    obtain ⟨hd, tl, split⟩ := List.exists_cons_of_ne_nil (List.splitOnP_ne_nil p xs)
    rw [List.cons_append, List.splitOnP_cons, List.splitOnP_cons, ih, split]
    split <;> rfl

/-- Splitting inverts joining names with a separator. -/
private theorem splitOnP_intercalate (p : Char → Bool) {sep : Char} (isSep : p sep = true) :
    ∀ ls : List Element, ls ≠ [] → (∀ e ∈ ls, ∀ c ∈ e, p c = false) → ([sep].intercalate ls).splitOnP p = ls
  | [], empty, _ => absurd rfl empty
  | [e], _, free => by
    simp only [List.intercalate, List.intersperse_singleton, List.flatten_cons, List.flatten_nil, List.append_nil]
    exact List.splitOnP_eq_single p e fun c mem => by simp [free e (List.mem_singleton_self e) c mem]
  | e :: next :: rest, _, free => by
    have tail := splitOnP_intercalate p isSep (next :: rest) (List.cons_ne_nil _ _)
      fun e' mem => free e' (List.mem_cons_of_mem _ mem)
    simp only [List.intercalate, List.intersperse_cons_cons, List.flatten_cons, List.singleton_append] at tail ⊢
    rw [List.splitOnP_first p e (fun c mem => by simp [free e (List.mem_cons_self _ _) c mem]) sep isSep, tail]

private theorem intercalate_append_name (sep : Char) {es : List Element} (nonempty : es ≠ []) (name : Element) :
    [sep].intercalate (es ++ [name]) = [sep].intercalate es ++ sep :: name := by
  induction es with
  | nil => exact absurd rfl nonempty
  | cons e rest ih =>
    cases rest with
    | nil => simp [List.intercalate]
    | cons e' rest =>
      have joined := ih (List.cons_ne_nil _ _)
      simp only [List.intercalate, List.cons_append, List.intersperse_cons_cons, List.flatten_cons] at joined ⊢
      rw [joined]
      simp

/-! ## The loop of `Clean` -/

private theorem stackOK_nil (rooted : Bool) : s.StackOK rooted [] := ⟨[], 0, rfl, by simp, fun _ => rfl⟩

/-- One element of the loop keeps the stack's shape. -/
private theorem cleanStep_ok {rooted : Bool} {stack : List Element} (ok : s.StackOK rooted stack) {e : Element}
    (free : ∀ c ∈ e, s.isSep c = false) : s.StackOK rooted (cleanStep rooted stack e) := by
  obtain ⟨names, ups, rfl, named, rootedUps⟩ := ok
  unfold cleanStep
  by_cases skipped : e = [] ∨ e = ['.']
  · exact if_pos skipped ▸ ⟨names, ups, rfl, named, rootedUps⟩
  rw [if_neg skipped]
  by_cases up : e = ['.', '.']
  · rw [if_pos up]
    cases names with
    | cons last kept =>
      have notUp : last ≠ ['.', '.'] := (named last (List.mem_cons_self _ _)).2.2.1
      dsimp only [List.cons_append]
      rw [if_neg notUp]
      exact ⟨kept, ups, rfl, fun e mem => named e (List.mem_cons_of_mem _ mem), rootedUps⟩
    | nil =>
      cases ups with
      | zero =>
        cases rooted
        · exact ⟨[], 1, by simp [up], by simp, by simp⟩
        · exact stackOK_nil true
      | succ ups =>
        have relative : rooted = false := by cases rooted <;> simp_all
        refine ⟨[], ups + 2, ?_, by simp, by simp [relative]⟩
        simp [List.replicate_succ, up]
  · rw [if_neg up]
    refine ⟨e :: names, ups, rfl, ?_, rootedUps⟩
    simp only [not_or] at skipped
    exact List.forall_mem_cons.mpr ⟨⟨skipped.1, skipped.2, up, free⟩, named⟩

/-- The whole loop keeps the stack's shape. -/
private theorem foldl_cleanStep_ok (rooted : Bool) (elems : List Element) (free : ∀ e ∈ elems, ∀ c ∈ e, s.isSep c = false)
    {stack : List Element} (ok : s.StackOK rooted stack) : s.StackOK rooted (elems.foldl (cleanStep rooted) stack) := by
  induction elems generalizing stack with
  | nil => exact ok
  | cons e rest ih =>
    exact ih (fun e' mem => free e' (List.mem_cons_of_mem _ mem)) (cleanStep_ok ok (free e (List.mem_cons_self _ _)))

private theorem elements_ok (path : String) : s.StackOK (s.elements path).1 (s.elements path).2.reverse := by
  simpa [elements] using foldl_cleanStep_ok _ _ (splitOnP_no_sep s.isSep path.data) (stackOK_nil _)

/-- A name is pushed. -/
private theorem cleanStep_name (rooted : Bool) (stack : List Element) {e : Element} (named : s.IsName e) :
    cleanStep rooted stack e = e :: stack := by
  obtain ⟨nonempty, notDot, notUp, _⟩ := named
  simp [cleanStep, nonempty, notDot, notUp]

/-- Names are pushed as they come. -/
private theorem foldl_cleanStep_names (rooted : Bool) (names : List Element) (named : ∀ e ∈ names, s.IsName e)
    (stack : List Element) : names.foldl (cleanStep rooted) stack = names.reverse ++ stack := by
  induction names generalizing stack with
  | nil => rfl
  | cons e rest ih =>
    rw [List.foldl_cons, ih (fun e' mem => named e' (List.mem_cons_of_mem _ mem)),
      cleanStep_name rooted stack (named e (List.mem_cons_self _ _))]
    simp

/-- A run of `..` read on an empty stack is kept, unless the path is rooted and the run is
empty. -/
private theorem foldl_cleanStep_ups (rooted : Bool) (ups : Nat) (rootedUps : rooted = true → ups = 0) :
    ∀ kept : Nat, (List.replicate ups ['.', '.']).foldl (cleanStep rooted) (List.replicate kept ['.', '.']) =
      List.replicate (kept + ups) ['.', '.'] := by
  induction ups with
  | zero => simp
  | succ ups ih =>
    intro kept
    have relative : rooted = false := by cases rooted <;> simp_all
    have pushed : cleanStep rooted (List.replicate kept ['.', '.']) ['.', '.'] = List.replicate (kept + 1) ['.', '.'] := by
      cases kept <;> simp [cleanStep, relative, List.replicate_succ]
    rw [List.replicate_succ, List.foldl_cons, pushed, ih (fun r => absurd r (by simp [relative])) (kept + 1)]
    congr 1
    omega

/-- Reading a cleaned path again gives back its root and its elements. -/
private theorem elements_render {rooted : Bool} {stack : List Element} (ok : s.StackOK rooted stack) :
    s.elements (s.render (rooted, stack.reverse)) = (rooted, stack.reverse) := by
  obtain ⟨names, ups, rfl, named, rootedUps⟩ := ok
  have kept_ok : ∀ e ∈ (names ++ List.replicate ups ['.', '.']).reverse, e ≠ [] ∧ ∀ c ∈ e, s.isSep c = false := by
    intro e mem
    rcases List.mem_append.mp (List.mem_reverse.mp mem) with name | up
    · exact ⟨(named e name).1, (named e name).2.2.2⟩
    · rw [List.eq_of_mem_replicate up]
      simp [s.dot_not_sep]
  have reread : (names ++ List.replicate ups ['.', '.']).reverse.foldl (cleanStep rooted) [] =
      (names ++ List.replicate ups ['.', '.']).reverse.reverse := by
    rw [List.reverse_reverse, List.reverse_append, List.reverse_replicate, List.foldl_append,
      show ([] : List Element) = List.replicate 0 ['.', '.'] from rfl, foldl_cleanStep_ups rooted ups rootedUps,
      foldl_cleanStep_names rooted _ (fun e mem => named e (List.mem_reverse.mp mem)), List.reverse_reverse, Nat.zero_add]
  generalize (names ++ List.replicate ups ['.', '.']).reverse = kept at kept_ok reread ⊢
  cases kept with
  | nil => cases rooted <;> simp [render, elements, isRooted, s.sep_isSep, s.dot_not_sep, cleanStep, List.intercalate]
  | cons first rest =>
    have split := splitOnP_intercalate s.isSep s.sep_isSep _ (List.cons_ne_nil first rest) fun e mem => (kept_ok e mem).2
    cases rooted with
    | true =>
      have skipped : cleanStep true [] [] = [] := by simp [cleanStep]
      simp only [render, elements, isRooted, s.sep_isSep, List.splitOnP_cons, if_true, split, List.foldl_cons,
        skipped, reread, List.reverse_reverse]
    | false =>
      obtain ⟨c, cs, rfl⟩ := List.exists_cons_of_ne_nil (kept_ok _ (List.mem_cons_self _ _)).1
      have starts : s.isRooted ([s.sep].intercalate ((c :: cs) :: rest)) = false := by
        cases rest <;> exact (kept_ok _ (List.mem_cons_self _ _)).2 c (List.mem_cons_self _ _)
      simp only [render, elements, starts, split, reread, List.reverse_reverse]

/-- `Clean` reads its own output as it read its input. -/
private theorem elements_clean (path : String) : s.elements (s.clean path) = s.elements path := by
  simpa [clean] using elements_render (elements_ok (s := s) path)

/-- `Clean` is idempotent. -/
private theorem clean_clean (path : String) : s.clean (s.clean path) = s.clean path := by
  rw [clean, elements_clean]
  rfl

private theorem isRooted_append {xs : List Char} (nonempty : xs ≠ []) (ys : List Char) :
    s.isRooted (xs ++ ys) = s.isRooted xs := by
  obtain ⟨c, cs, rfl⟩ := List.exists_cons_of_ne_nil nonempty
  rfl

/-- `Dir` returns a clean path. -/
private theorem clean_dir (path : String) : s.clean (s.dir path) = s.dir path := clean_clean _

/-- No path's `Dir` is a path that `Clean` changes. -/
theorem dir_ne_of_unclean {root : String} (unclean : s.clean root ≠ root) (path : String) : s.dir path ≠ root :=
  fun same => unclean (same ▸ clean_dir path)

/-- A name joined to a directory adds one element to what `Clean` keeps of it. -/
theorem elements_join_name (dir : String) {name : String} (named : s.IsName name.data) :
    s.elements (s.join [dir, name]) = ((s.elements dir).1, (s.elements dir).2 ++ [name.data]) := by
  have alone : name.data.splitOnP s.isSep = [name.data] :=
    List.splitOnP_eq_single _ _ fun c mem => by simp [named.2.2.2 c mem]
  have notEmpty : name.isEmpty = false :=
    Bool.eq_false_iff.mpr fun empty => named.1 (by rw [(String.isEmpty_iff _).mp empty])
  by_cases empty : dir = ""
  · subst empty
    have relative : s.isRooted name.data = false := by
      obtain ⟨c, cs, chars⟩ := List.exists_cons_of_ne_nil named.1
      rw [chars]
      exact named.2.2.2 c (chars ▸ List.mem_cons_self _ _)
    have dropped : ["", name].dropWhile String.isEmpty = [name] := by
      simp [List.dropWhile, notEmpty, show "".isEmpty = true from rfl]
    have emptyDir : s.elements "" = (false, []) := rfl
    rw [join, dropped]
    show s.elements (s.clean name) = _
    rw [elements_clean, emptyDir]
    simp [elements, relative, alone, cleanStep_name false [] named]
  · have nonempty : dir.data ≠ [] := fun chars => empty (String.ext chars)
    have notEmpty' : dir.isEmpty = false :=
      Bool.eq_false_iff.mpr fun isEmpty => empty ((String.isEmpty_iff _).mp isEmpty)
    have dropped : [dir, name].dropWhile String.isEmpty = [dir, name] := by simp [List.dropWhile, notEmpty']
    have chars : (dir ++ s.sep.toString ++ name).data = dir.data ++ s.sep :: name.data := by
      simp [Char.toString, String.singleton]
    rw [join, dropped]
    show s.elements (s.clean (dir ++ s.sep.toString ++ name)) = _
    rw [elements_clean]
    simp only [elements, chars, isRooted_append nonempty, splitOnP_append_sep _ _ _ s.sep_isSep, alone,
      List.foldl_append, List.foldl_cons, List.foldl_nil, cleanStep_name _ _ named, List.reverse_cons]

/-! ## `Dir` of a joined name -/

/-- A name joined to a directory gives a clean path. -/
theorem clean_join_name (dir : String) {name : String} (named : s.IsName name.data) :
    s.clean (s.join [dir, name]) = s.join [dir, name] := by
  unfold join
  split
  · rename_i dropped
    have empty := List.dropWhile_eq_nil_iff.mp dropped name (by simp)
    exact absurd (by rw [(String.isEmpty_iff _).mp empty]) named.1
  · exact clean_clean _

private theorem join_name_eq_render (dir : String) {name : String} (named : s.IsName name.data) :
    s.join [dir, name] = s.render ((s.elements dir).1, (s.elements dir).2 ++ [name.data]) := by
  rw [← clean_join_name dir named, clean, elements_join_name dir named]

/-- A trailing separator adds only an empty element, which `Clean` drops. -/
private theorem elements_append_sep {x : List Char} (nonempty : x ≠ []) : s.elements ⟨x ++ [s.sep]⟩ = s.elements ⟨x⟩ := by
  have skipped : ∀ rooted out, cleanStep rooted out [] = out := by simp [cleanStep]
  simp only [elements, isRooted_append nonempty, splitOnP_append_sep _ _ _ s.sep_isSep, List.splitOnP_nil,
    List.foldl_append, List.foldl_cons, List.foldl_nil, skipped]

/-- `Dir` drops a last element with no separator after a text that is empty or ends in one. -/
private theorem dir_text {text name : List Char} (free : ∀ c ∈ name, s.isSep c = false)
    (ends : text = [] ∨ ∃ pre, text = pre ++ [s.sep]) : s.dir ⟨text ++ name⟩ = s.clean ⟨text⟩ := by
  have dropped : ((text ++ name).reverse.dropWhile fun c => !s.isSep c) = text.reverse := by
    rw [List.reverse_append, List.dropWhile_append_of_pos (fun c mem => by simp [free c (List.mem_reverse.mp mem)])]
    rcases ends with rfl | ⟨pre, rfl⟩
    · rfl
    · simp [s.sep_isSep]
  rw [dir, dropped, List.reverse_reverse]

/-- `Dir` of a cleaned path that ends in a name is the cleaned path of the elements before it. -/
private theorem dir_render_name {rooted : Bool} {stack : List Element} (ok : s.StackOK rooted stack) {name : Element}
    (named : s.IsName name) : s.dir (s.render (rooted, stack.reverse ++ [name])) = s.render (rooted, stack.reverse) := by
  have free := named.2.2.2
  have reread := elements_render ok
  generalize stack.reverse = kept at reread ⊢
  cases kept with
  | nil =>
    have alone : s.render (rooted, [] ++ [name]) = ⟨(if rooted then [s.sep] else []) ++ name⟩ := by
      cases rooted <;> simp [render, List.intercalate]
    rw [alone]
    cases rooted
    · exact dir_text free (.inl rfl)
    · have rootOnly : s.clean ⟨[s.sep]⟩ = s.render (true, []) := by
        simp [clean, elements, isRooted, s.sep_isSep,
          show [s.sep].splitOnP s.isSep = [[], []] from splitOnP_append_sep _ [] [] s.sep_isSep, cleanStep]
      rw [← rootOnly]
      exact dir_text free (.inr ⟨[], rfl⟩)
  | cons e rest =>
    have text : s.render (rooted, e :: rest ++ [name]) = ⟨((s.render (rooted, e :: rest)).data ++ [s.sep]) ++ name⟩ := by
      have joined := intercalate_append_name s.sep (List.cons_ne_nil e rest) name
      rw [List.cons_append] at joined
      cases rooted <;> simp [render, joined]
    have nonempty : (s.render (rooted, e :: rest)).data ≠ [] := fun empty => by
      rw [show s.render (rooted, e :: rest) = "" from String.ext empty] at reread
      exact List.cons_ne_nil e rest (congrArg Prod.snd reread).symm
    rw [text, dir_text free (.inr ⟨_, rfl⟩), clean, elements_append_sep nonempty]
    exact congrArg s.render reread

/-- `Dir` of a name joined to a clean directory is that directory. -/
theorem dir_join_name {dir : String} (clean : s.clean dir = dir) {name : String} (named : s.IsName name.data) :
    s.dir (s.join [dir, name]) = dir := by
  have stacked := dir_render_name (elements_ok (s := s) dir) named
  rw [List.reverse_reverse] at stacked
  rw [join_name_eq_render dir named, stacked]
  exact clean

/-- A path whose elements are a directory's followed by one name lies below that directory. -/
theorem within_of_elements {dir path : String} {name : Element} (notUp : name ≠ ['.', '.'])
    (below : s.elements path = ((s.elements dir).1, (s.elements dir).2 ++ [name])) : s.Within dir path := by
  rw [Within, below]
  simp [Ne.symm notUp]

end Separators

end EndpointAgent.Filepath
