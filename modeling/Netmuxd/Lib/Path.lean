/-
Unix paths, the way Rust's standard library takes them apart and joins them.

What a path is about goes by its components: empty pieces and inner dots do not count.
Joining puts a separator in between unless there is one, and an absolute argument
replaces the base.
-/
import Mathlib.Tactic.Common

namespace Netmuxd.Lib

abbrev Path := List Char

inductive Component
  | rootDir
  | curDir
  | parentDir
  | normal (name : List Char)
  deriving DecidableEq

namespace Path

def isAbsolute (p : Path) : Bool :=
  p.head? == some '/'

/-- `base.join(p)`. -/
def join (base p : Path) : Path :=
  if p.isAbsolute then p
  else if base = [] ∨ base.getLast? = some '/' then base ++ p
  else base ++ '/' :: p

/-- What stands between two separators. -/
def piece : List Char → Option Component
  | [] => none
  | ['.'] => none
  | ['.', '.'] => some .parentDir
  | name => some (.normal name)

/-- The root, or the dot a relative path may start with. -/
def start (p : Path) : List Component :=
  if p.isAbsolute then [.rootDir]
  else if (p.splitOn '/').head? = some ['.'] then [.curDir]
  else []

def components (p : Path) : List Component :=
  p.start ++ (p.splitOn '/').filterMap piece

/-- The components of `p.parent()`. -/
def parent (p : Path) : Option (List Component) :=
  match p.components.getLast? with
  | none => none
  | some .rootDir => none
  | some _ => some p.components.dropLast

/-! ### Names -/

/-- Something that names a file within a directory: no separator, and not one of the names
that stand for a directory. -/
structure IsName (name : List Char) : Prop where
  separator : '/' ∉ name
  piece : piece name = some (.normal name)

theorem IsName.relative {name : List Char} (h : IsName name) : isAbsolute name = false := by
  cases name with
  | nil => rfl
  | cons c rest =>
      have hne : c ≠ '/' := by
        rintro rfl
        exact h.separator List.mem_cons_self
      simpa [isAbsolute] using hne

theorem not_mem_of_mem_splitOn {a : Char} {l piece : List Char} (h : piece ∈ l.splitOn a) :
    a ∉ piece := by
  induction l generalizing piece with
  | nil => simp_all
  | cons x rest ih =>
      rw [List.splitOn_cons_eq_if_modifyHead] at h
      obtain ⟨first, others, hsplit⟩ := List.exists_cons_of_ne_nil (List.splitOn_ne_nil a rest)
      rw [hsplit] at h ih
      split at h
      · rcases List.mem_cons.mp h with rfl | h
        · exact List.not_mem_nil
        · exact ih h
      · rename_i hx
        rw [List.modifyHead_cons] at h
        rcases List.mem_cons.mp h with rfl | h
        · have := ih (List.mem_cons_self)
          grind
        · exact ih (List.mem_cons_of_mem _ h)

/-- Only short pieces are not names. -/
theorem piece_of_length {name : List Char} (h : 2 < name.length) :
    piece name = some (.normal name) := by
  unfold piece
  split
  · simp at h
  · simp at h
  · simp at h
  · rfl

/-- Components carry no separator, whatever the path. -/
theorem separator_not_mem_of_normal {p : Path} {name : List Char}
    (h : .normal name ∈ p.components) : '/' ∉ name := by
  unfold components at h
  rcases List.mem_append.mp h with h | h
  · unfold start at h
    split at h
    · simp at h
    · split at h <;> simp at h
  · obtain ⟨l, hl, hpiece⟩ := List.mem_filterMap.mp h
    have hname : l = name := by
      unfold piece at hpiece
      split at hpiece <;> simp_all
    exact hname ▸ not_mem_of_mem_splitOn hl

/-! ### Joining a name -/

theorem splitOn_separator (p : Path) {name : List Char} (h : '/' ∉ name) :
    (p ++ '/' :: name).splitOn '/' = p.splitOn '/' ++ [name] := by
  rw [List.splitOn_append_cons_self, List.splitOn_eq_singleton h]

theorem start_separator (p : Path) {name name' : List Char} (h : '/' ∉ name) (h' : '/' ∉ name') :
    start (p ++ '/' :: name) = start (p ++ '/' :: name') := by
  obtain ⟨first, others, hp⟩ := List.exists_cons_of_ne_nil (List.splitOn_ne_nil '/' p)
  unfold start isAbsolute
  rw [splitOn_separator p h, splitOn_separator p h', hp]
  cases p with
  | nil => rfl
  | cons c rest => rfl

theorem filterMap_separator (p : Path) {name : List Char} (h : '/' ∉ name) :
    ((p ++ '/' :: name).splitOn '/').filterMap piece =
      (p.splitOn '/').filterMap piece ++ (piece name).toList := by
  rw [splitOn_separator p h, List.filterMap_append]
  cases hpiece : piece name <;> simp [hpiece]

/-- A separator at the end does not count. -/
theorem components_trailing {p : Path} (hp : p ≠ []) :
    components (p ++ ['/']) = p.components := by
  have hstart : start (p ++ ['/']) = p.start := by
    obtain ⟨c, rest, rfl⟩ := List.exists_cons_of_ne_nil hp
    obtain ⟨first, others, hsplit⟩ :=
      List.exists_cons_of_ne_nil (List.splitOn_ne_nil '/' (c :: rest))
    unfold start isAbsolute
    rw [splitOn_separator _ List.not_mem_nil, hsplit]
    rfl
  unfold components
  rw [hstart, filterMap_separator p List.not_mem_nil]
  simp [piece]

theorem components_separator (p : Path) {name : List Char} (h : IsName name) :
    components (p ++ '/' :: name) = components (p ++ ['/']) ++ [.normal name] := by
  unfold components
  rw [start_separator p h.separator List.not_mem_nil, filterMap_separator p h.separator,
    filterMap_separator p List.not_mem_nil, h.piece]
  simp [piece]

theorem components_name {name : List Char} (h : IsName name) :
    components name = [.normal name] := by
  have hdot : name ≠ ['.'] := by
    rintro rfl
    cases h.piece
  unfold components start
  rw [h.relative, List.splitOn_eq_singleton h.separator]
  simp [h.piece, hdot]

/-- A name joined to a base names a child of it. -/
theorem components_join (base : Path) {name : List Char} (h : IsName name) :
    (base.join name).components = base.components ++ [.normal name] := by
  unfold join
  rw [h.relative]
  by_cases hbase : base = []
  · subst hbase
    exact components_name h
  · by_cases hlast : base.getLast? = some '/'
    · obtain ⟨parent, rfl⟩ := List.getLast?_eq_some_iff.mp hlast
      simpa using components_separator parent h
    · simpa [hbase, hlast, components_trailing hbase] using components_separator base h

theorem mem_join {c : Char} {base p : Path} (hbase : c ∉ base) (hc : c ≠ '/') :
    c ∈ base.join p ↔ c ∈ p := by
  unfold join
  split
  · rfl
  · split
    · simp [hbase]
    · simp [hbase, hc]

/-- What is joined names a child exactly if it is a name. -/
theorem components_join_iff (base : Path) {name : List Char}
    (hpiece : piece name = some (.normal name)) :
    (base.join name).components = base.components ++ [.normal name] ↔ '/' ∉ name := by
  constructor
  · intro h
    refine separator_not_mem_of_normal (p := base.join name) ?_
    simp [h]
  · intro h
    exact components_join base ⟨h, hpiece⟩

end Path

end Netmuxd.Lib
