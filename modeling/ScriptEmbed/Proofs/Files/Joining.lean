import Mathlib.Tactic.SplitIfs
import ScriptEmbed.Files.Path

/-!
What joining paths comes to. Joining closes the first part by a slash, unless it ends in one or is
empty, and puts the second part after it, unless that is absolute (`join_of_relative`). So it leads
through the names of the first part to those of the second (`names_join`). Closing passes through
what is joined (`closed_append`), and hence joining is associative (`join_assoc`): a path may be
joined to a directory before that is joined to where it is itself taken from, or after.
-/

set_option autoImplicit false
set_option relaxedAutoImplicit false

namespace ScriptEmbed.Files.Path

variable {base part : Path}

/-- A path with the slash that divides it from what is joined to it. -/
def closed (base : Path) : Path :=
  if base.isEmpty || base.getLast? == some '/' then base else base ++ ['/']

theorem closed_nil : closed [] = [] := rfl

theorem closed_concat (front : Path) (last : Char) :
    closed (front ++ [last]) =
      if last = '/' then front ++ [last] else front ++ [last] ++ ['/'] := by
  simp [closed]

theorem join_of_absolute (hpart : part.isAbsolute = true) (base : Path) :
    join base part = part := by
  rw [join, if_pos hpart]

theorem join_of_relative (hpart : part.isAbsolute = false) (base : Path) :
    join base part = closed base ++ part := by
  rw [join, if_neg (by simp [hpart]), closed]
  split
  · rfl
  · rw [List.append_assoc]
    rfl

theorem prefix_closed (base : Path) : base <+: closed base := by
  unfold closed
  split
  · exact List.prefix_rfl
  · exact List.prefix_append base ['/']

theorem prefix_join (hpart : part.isAbsolute = false) (base : Path) : base <+: join base part := by
  rw [join_of_relative hpart]
  exact (prefix_closed base).trans (List.prefix_append _ part)

theorem join_ne_nil (hbase : base ≠ []) (hpart : part.isAbsolute = false) :
    join base part ≠ [] := by
  obtain ⟨rest, hrest⟩ := prefix_join hpart base
  rw [← hrest]
  exact List.append_ne_nil_of_left_ne_nil hbase rest

theorem isAbsolute_join (hpart : part.isAbsolute = false) (base : Path) :
    (join base part).isAbsolute = base.isAbsolute := by
  cases base with
  | nil => exact (congrArg isAbsolute (join_of_relative hpart [])).trans hpart
  | cons c rest =>
    obtain ⟨others, hothers⟩ := prefix_join hpart (c :: rest)
    simp only [← hothers, isAbsolute, List.cons_append, List.head?_cons]

theorem suffix_join (base part : Path) : part <:+ join base part := by
  by_cases hpart : part.isAbsolute = true
  · simp only [join_of_absolute hpart, List.suffix_rfl]
  · rw [join_of_relative (by simpa using hpart)]
    exact List.suffix_append _ part

theorem endsInSlash_join (hpart : part ≠ []) (base : Path) :
    (join base part).endsInSlash = part.endsInSlash := by
  obtain ⟨front, hfront⟩ := suffix_join base part
  rw [endsInSlash, endsInSlash, ← hfront, List.getLast?_append,
    List.getLast?_eq_some_getLast hpart, Option.some_or]

/-! ### Names -/

theorem names_append_slash (front back : Path) :
    names (front ++ '/' :: back) = names front ++ names back := by
  simp [names, List.splitOn_append_cons_self]

theorem names_closed_append (base part : Path) :
    names (closed base ++ part) = names base ++ names part := by
  have hnothing : names [] = [] := rfl
  rcases List.eq_nil_or_concat base with rfl | ⟨front, last, rfl⟩
  · rfl
  rw [List.concat_eq_append, closed_concat]
  split_ifs with hslash
  · rw [hslash, List.append_assoc, List.singleton_append, names_append_slash, names_append_slash,
      hnothing, List.append_nil]
  · rw [List.append_assoc, List.singleton_append, names_append_slash]

theorem names_join (hpart : part.isAbsolute = false) (base : Path) :
    names (join base part) = names base ++ names part := by
  rw [join_of_relative hpart, names_closed_append]

/-! ### Associativity -/

theorem closed_closed (base : Path) : closed (closed base) = closed base := by
  rcases List.eq_nil_or_concat base with rfl | ⟨front, last, rfl⟩
  · rfl
  rw [List.concat_eq_append, closed_concat]
  split_ifs with hslash
  · rw [closed_concat, if_pos hslash]
  · rw [closed_concat, if_pos rfl]

/-- The slash at the end of a join is that of its second part, unless that part is empty. -/
theorem closed_append (base part : Path) :
    closed (closed base ++ part) = closed base ++ closed part := by
  rcases List.eq_nil_or_concat part with rfl | ⟨front, last, rfl⟩
  · rw [List.append_nil, closed_closed, closed_nil, List.append_nil]
  rw [List.concat_eq_append, ← List.append_assoc, closed_concat, closed_concat]
  split_ifs
  · rw [List.append_assoc]
  · simp only [List.append_assoc]

theorem join_assoc (base middle part : Path) :
    join (join base middle) part = join base (join middle part) := by
  by_cases hpart : part.isAbsolute = true
  · rw [join_of_absolute hpart, join_of_absolute hpart, join_of_absolute hpart]
  have hpart' : part.isAbsolute = false := by simpa using hpart
  have hjoined := isAbsolute_join hpart' middle
  by_cases hmiddle : middle.isAbsolute = true
  · rw [join_of_absolute hmiddle, join_of_absolute (hjoined.trans hmiddle)]
  have hmiddle' : middle.isAbsolute = false := by simpa using hmiddle
  calc join (join base middle) part
      = closed (closed base ++ middle) ++ part := by
        rw [join_of_relative hpart', join_of_relative hmiddle']
    _ = closed base ++ (closed middle ++ part) := by rw [closed_append, List.append_assoc]
    _ = join base (join middle part) := by
        rw [join_of_relative (hjoined.trans hmiddle'), join_of_relative hpart']

end ScriptEmbed.Files.Path
