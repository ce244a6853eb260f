/-
Writing and reading back. A file that has been written holds what was written, at the path that it was
written to: the path leads through directories that are still there, and a directory never gives way to a
file. Nothing else changes, and whether a file can be written does not depend on what is written.
-/
import Mathlib.Data.List.Infix
import Mathlib.Tactic.SplitIfs
import Striker.Files.Basic

namespace Striker.Files

variable {f f' : Files} {p : Path} {u v w : Way} {name : Bytes} {item : Item}

/-! ## Items -/

/-- A way that goes out of the directory, or on which there is an entry. -/
def Leads (f : Files) (w : Way) : Prop := isOutside w = true ∨ ∃ e ∈ f.entries, w <:+ e.1

/-- Where no entry says more, there is a directory exactly if the way leads somewhere. -/
theorem item?_of_lookup_none (h : f.entries.lookup w = none) :
    (f.Leads w → f.item? w = some .directory) ∧ (¬ f.Leads w → f.item? w = none) := by
  have hany : (isOutside w ∨ f.entries.any (fun e => w.isSuffixOf e.1)) ↔ f.Leads w := by
    simp [Leads]
  constructor
  · intro hw
    simp only [item?, h, if_pos (hany.2 hw)]
  · intro hw
    simp only [item?, h, if_neg (mt hany.1 hw)]

theorem item?_of_lookup_some (h : f.entries.lookup w = some item) : f.item? w = some item := by
  simp only [item?, h]

/-- A directory stands in directories. -/
theorem leads_of_suffix (h : f.item? w = some .directory) (hv : v <:+ w) : f.Leads v := by
  cases hw : f.entries.lookup w with
  | some item =>
    obtain ⟨before, after, hentries, -⟩ := List.lookup_eq_some_iff.1 hw
    exact .inr ⟨(w, item), by simp [hentries], hv⟩
  | none =>
    by_cases hleads : f.Leads w
    · rcases hleads with hout | ⟨e, he, hwe⟩
      · refine .inl (List.all_eq_true.2 fun name hname => ?_)
        exact List.all_eq_true.1 hout name (hv.subset hname)
      · exact .inr ⟨e, he, hv.trans hwe⟩
    · rw [(item?_of_lookup_none hw).2 hleads] at h
      cases h

/-! ## Items after one is put somewhere -/

theorem lookup_filter_of_ne (h : v ≠ w) (l : List (Way × Item)) :
    (l.filter fun (other, _) => other ≠ w).lookup v = l.lookup v := by
  induction l with
  | nil => rfl
  | cons e l ih =>
    obtain ⟨other, item⟩ := e
    by_cases hw : other = w
    · have hv : (v == w) = false := beq_eq_false_iff_ne.2 h
      simpa [hw, List.lookup_cons, hv] using ih
    · have hkeep : ((other, item) :: l).filter (fun (other, _) => other ≠ w) =
          (other, item) :: l.filter fun (other, _) => other ≠ w := by
        simp [hw]
      rw [hkeep, List.lookup_cons, List.lookup_cons, ih]

@[simp] theorem item?_put_self : (f.put w item).item? w = some item :=
  item?_of_lookup_some (by simp [put])

/-- An item that is put into a directory changes nothing else. -/
theorem item?_put_of_ne (hdir : f.item? u = some .directory) (h : v ≠ name :: u) :
    (f.put (name :: u) item).item? v = f.item? v := by
  have hlookup : (f.put (name :: u) item).entries.lookup v = f.entries.lookup v := by
    have hv : (v == name :: u) = false := beq_eq_false_iff_ne.2 h
    simp only [put, List.lookup_cons, hv]
    exact lookup_filter_of_ne h _
  have hleads : (f.put (name :: u) item).Leads v ↔ f.Leads v := by
    constructor
    · rintro (hout | ⟨e, he, hve⟩)
      · exact .inl hout
      · rcases List.mem_cons.1 he with rfl | he
        · -- the way to the new item leads through the directory that it is in
          rcases List.suffix_cons_iff.1 hve with rfl | hvu
          · exact absurd rfl h
          · exact leads_of_suffix hdir hvu
        · exact .inr ⟨e, List.mem_of_mem_filter he, hve⟩
    · rintro (hout | ⟨e, he, hve⟩)
      · exact .inl hout
      · by_cases hw : e.1 = name :: u
        · exact .inr ⟨(name :: u, item), List.mem_cons_self, hw ▸ hve⟩
        · exact .inr ⟨e, List.mem_cons_of_mem _ (by simp [he, hw]), hve⟩
  cases hv : f.entries.lookup v with
  | some x =>
    rw [item?_of_lookup_some hv, item?_of_lookup_some (hlookup.trans hv)]
  | none =>
    have hold := item?_of_lookup_none hv
    have hnew := item?_of_lookup_none (hlookup.trans hv)
    by_cases hl : f.Leads v
    · rw [hold.1 hl, hnew.1 (hleads.2 hl)]
    · rw [hold.2 hl, hnew.2 (mt hleads.1 hl)]

/-! ## Ways after an item is put somewhere -/

/-- Whether a name is that of an item, and not a step on the spot or outwards. -/
def IsName (name : Bytes) : Prop := name ≠ [] ∧ name ≠ here ∧ name ≠ above

theorem enter_eq_ok : f.enter v name = .ok w ↔ f.item? v = some .directory ∧
    ((name = [] ∨ name = here) ∧ w = v ∨ name = above ∧ w = leave v ∨
      IsName name ∧ name.length ≤ nameLimit ∧ (f.item? (name :: v)).isSome ∧ w = name :: v) := by
  have hempty : ([] : Bytes) ≠ above := by decide
  have hhere : here ≠ above := by decide
  unfold enter IsName
  split_ifs <;> grind

/-- A way that could be followed still can be. -/
theorem enter_put (hdir : f.item? u = some .directory) (hw : f.item? (name :: u) ≠ some .directory)
    {step : Bytes} (h : f.enter v step = .ok w) : (f.put (name :: u) item).enter v step = .ok w := by
  obtain ⟨hv, hstep⟩ := enter_eq_ok.1 h
  have hne : v ≠ name :: u := fun he => hw (he ▸ hv)
  refine enter_eq_ok.2 ⟨(item?_put_of_ne hdir hne).trans hv, ?_⟩
  rcases hstep with hstay | hout | ⟨hname, hlength, hsome, hw⟩
  · exact .inl hstay
  · exact .inr (.inl hout)
  · refine .inr (.inr ⟨hname, hlength, ?_, hw⟩)
    by_cases hx : step :: v = name :: u
    · rw [hx, item?_put_self]
      rfl
    · rwa [item?_put_of_ne hdir hx]

theorem follow_concat {steps : List Bytes} (h : f.follow u steps = .ok v)
    (hlast : f.enter v name = .ok w) : f.follow u (steps ++ [name]) = .ok w := by
  unfold follow at h ⊢
  rw [List.foldlM_append, h]
  show f.enter v name >>= pure = .ok w
  rw [bind_pure, hlast]

theorem follow_put (hdir : f.item? u = some .directory) (hw : f.item? (name :: u) ≠ some .directory)
    {steps : List Bytes} (h : f.follow v steps = .ok w) :
    (f.put (name :: u) item).follow v steps = .ok w := by
  induction steps generalizing v with
  | nil => exact h
  | cons step steps ih =>
    unfold follow at h ⊢
    rw [List.foldlM_cons] at h ⊢
    cases he : f.enter v step with
    | error e =>
      rw [he] at h
      cases h
    | ok x =>
      rw [he] at h
      rw [enter_put hdir hw he]
      exact ih h

/-! ## Writing -/

/-- Names without an empty one at the end lose nothing when those are dropped. -/
theorem eq_concat_of_dropWhile {names before : List Bytes} {last : Bytes}
    (h : names.reverse.dropWhile (· = []) = last :: before) (hlast : names.getLast? ≠ some []) :
    names = before.reverse ++ [last] ∧ last ≠ [] := by
  rcases List.eq_nil_or_concat names with rfl | ⟨init, x, rfl⟩
  · cases h
  · have hx : x ≠ [] := fun hx => hlast (by simp [hx])
    rw [List.concat_eq_append, List.reverse_append, List.reverse_singleton, List.singleton_append,
      List.dropWhile_cons_of_neg (by simpa using hx)] at h
    obtain ⟨rfl, rfl⟩ := List.cons.inj h
    rw [List.reverse_reverse]
    exact ⟨List.concat_eq_append, hx⟩

/-- Where a file can be written: at a last name that is one, in a directory. -/
theorem exists_of_target (h : f.target p = .ok w) : ∃ before last v, (start p).2 = before ++ [last] ∧
    f.follow (start p).1 before = .ok v ∧ f.item? v = some .directory ∧ IsName last ∧
    last.length ≤ nameLimit ∧ w = last :: v := by
  unfold target at h
  dsimp only at h
  cases hnames : (start p).2.reverse.dropWhile (· = []) with
  | nil =>
    rw [hnames] at h
    cases h
  | cons last before =>
    cases hfollow : f.follow (start p).1 before.reverse with
    | error e =>
      simp only [hnames, hfollow, bind, Except.bind] at h
      cases h
    | ok v =>
      simp only [hnames, hfollow, bind, Except.bind, pure, Except.pure, throw, throwThe,
        MonadExceptOf.throw] at h
      split_ifs at h with hdir hname hlong
      obtain ⟨hends, hhere, habove⟩ := not_or.1 hname |>.imp_right not_or.1
      obtain ⟨hconcat, hempty⟩ := eq_concat_of_dropWhile hnames hends
      exact ⟨before.reverse, last, v, hconcat, hfollow, not_not.1 hdir, ⟨hempty, hhere, habove⟩,
        Nat.le_of_not_lt hlong, (Except.ok.inj h).symm⟩

theorem write_eq_ok {content : Bytes} : f.write p content = .ok f' ↔ checkPath p = .ok () ∧
    ∃ w, f.target p = .ok w ∧ f.item? w ≠ some .directory ∧ f' = f.put w (.file content) := by
  unfold write
  cases hpath : checkPath p with
  | error e => simp [bind, Except.bind]
  | ok u =>
    cases htarget : f.target p with
    | error e => simp [bind, Except.bind]
    | ok w =>
      by_cases hw : f.item? w = some .directory
      · simp [bind, Except.bind, hw, throw, throwThe, MonadExceptOf.throw]
      · simp [bind, Except.bind, pure, Except.pure, hw, eq_comm (a := f')]

/-- What a file holds is found at its way. -/
theorem read_of_item? {content : Bytes} (hpath : checkPath p = .ok ())
    (hfollow : f.follow (start p).1 (start p).2 = .ok w) (hitem : f.item? w = some (.file content)) :
    f.read p = .ok content := by
  unfold read
  simp only [hpath, hfollow, hitem, bind, Except.bind, pure, Except.pure]

/-- What has been written is read back. -/
theorem read_write {content : Bytes} (h : f.write p content = .ok f') : f'.read p = .ok content := by
  obtain ⟨hpath, w, htarget, hw, rfl⟩ := write_eq_ok.1 h
  obtain ⟨before, last, v, hnames, hfollow, hdir, hname, hlength, rfl⟩ := exists_of_target htarget
  have hdir' : (f.put (last :: v) (.file content)).item? v = some .directory := by
    rw [item?_put_of_ne hdir (fun he => hw (he ▸ hdir))]
    exact hdir
  have henter : (f.put (last :: v) (.file content)).enter v last = .ok (last :: v) :=
    enter_eq_ok.2 ⟨hdir', .inr (.inr ⟨hname, hlength, by rw [item?_put_self]; rfl, rfl⟩)⟩
  refine read_of_item? hpath ?_ item?_put_self
  rw [hnames]
  exact follow_concat (follow_put hdir hw hfollow) henter

/-- Writing changes nothing but one item. -/
theorem item?_write {content : Bytes} (h : f.write p content = .ok f') :
    ∃ w, f'.item? w = some (.file content) ∧ ∀ v, v ≠ w → f'.item? v = f.item? v := by
  obtain ⟨-, w, htarget, -, rfl⟩ := write_eq_ok.1 h
  obtain ⟨-, last, u, -, -, hdir, -, -, rfl⟩ := exists_of_target htarget
  exact ⟨last :: u, item?_put_self, fun _ hv => item?_put_of_ne hdir hv⟩

/-- Whether a file can be written at a path. -/
def Writable (f : Files) (p : Path) : Prop := ∀ content, ∃ f', f.write p content = .ok f'

/-- Where something can be written, anything can. -/
theorem writable_of_write {content : Bytes} (h : f.write p content = .ok f') : f.Writable p := by
  obtain ⟨hpath, w, htarget, hw, -⟩ := write_eq_ok.1 h
  exact fun _ => ⟨_, write_eq_ok.2 ⟨hpath, w, htarget, hw, rfl⟩⟩

/-! ## Files as a state -/

theorem run_read (p : Path) (f : Files) :
    (Storage.read p : StateM Files (Except FileError Bytes)).run f = pure (f.read p, f) := rfl

theorem run_write_ok {content : Bytes} (h : f.write p content = .ok f') :
    (Storage.write p content : StateM Files (Except FileError Unit)).run f = pure (.ok (), f') := by
  simp only [Storage.write, StateT.run_bind, StateT.run_get, pure_bind, h]
  rfl

theorem run_write_error {content : Bytes} {e : FileError} (h : f.write p content = .error e) :
    (Storage.write p content : StateM Files (Except FileError Unit)).run f = pure (.error e, f) := by
  simp only [Storage.write, StateT.run_bind, StateT.run_get, pure_bind, h]
  rfl

end Striker.Files
