import SnippetAudit.Proofs.Files.Grown
import SnippetAudit.Proofs.Files.Path
import Mathlib.Data.List.Basic

/-!
# Trees of entries

A list of entries is a tree when every place has one entry and all names are proper (`WellFormed`).

- The order of the entries is then of no account: whatever is asked of a tree, one with the same entries gives the same
  answer (`resolve_same`, `lookup?_same`).
- Every operation makes a tree from a tree (`WellFormed.write`, `WellFormed.replace` and the others).
-/

namespace SnippetAudit.Files

/-- A name that an entry can have: no dots that lead elsewhere, and no slash. -/
def Proper (name : String) : Prop := IsName name.toList ∧ '/' ∉ name.toList

/-- The entries form a tree: one for each place, under proper names. -/
structure WellFormed (fs : Files) : Prop where
  distinct : (fs.entries.map (·.1)).Nodup
  proper : ∀ place ∈ fs.entries.map (·.1), ∀ name ∈ place, Proper name

/-- The same tree with its entries in another order. -/
structure Reordered (fs fs' : Files) : Prop where
  here : fs'.here = fs.here
  entries : fs'.entries.Perm fs.entries

variable {fs fs' : Files} {place goal : Place} {path : Path} {name : String} {names : List String}

theorem Reordered.symm (h : Reordered fs fs') : Reordered fs' fs := ⟨h.here.symm, h.entries.symm⟩

theorem mem_of_entry {e : Entry} (h : fs.entry? (place ++ [name]) = some e) : (place ++ [name], e) ∈ fs.entries := by
  have hlookup : fs.entries.lookup (place ++ [name]) = some e := by simpa [ entry?] using h
  obtain ⟨before, after, heq, -⟩ := List.lookup_eq_some_iff.1 hlookup
  rw [heq]
  exact List.mem_append_right _ List.mem_cons_self

theorem place_mem_of_entry {e : Entry} (h : fs.entry? (place ++ [name]) = some e) :
    place ++ [name] ∈ fs.entries.map (·.1) :=
  List.mem_map.2 ⟨_, mem_of_entry h, rfl⟩

namespace WellFormed

theorem proper_of_entry {e : Entry} (hfs : WellFormed fs) (h : fs.entry? (place ++ [name]) = some e) : Proper name :=
  hfs.proper _ (place_mem_of_entry h) name (by simp)

/-- With one entry for each place, looking a place up is being listed. -/
theorem lookup_iff (hfs : WellFormed fs) {p : Place} {e : Entry} :
    fs.entries.lookup p = some e ↔ (p, e) ∈ fs.entries := by
  rw [List.lookup_eq_some_iff]
  constructor
  · rintro ⟨before, after, heq, -⟩
    rw [heq]
    exact List.mem_append_right _ List.mem_cons_self
  · intro hmem
    obtain ⟨before, after, heq⟩ := List.append_of_mem hmem
    refine ⟨before, after, heq, fun q hq => ?_⟩
    have hnodup := hfs.distinct
    rw [heq, List.map_append, List.map_cons, List.nodup_append] at hnodup
    exact bne_iff_ne.2 fun hpq => hnodup.2.2 q.1 (List.mem_map_of_mem hq) p List.mem_cons_self hpq.symm

theorem reordered (hfs : WellFormed fs) (h : Reordered fs fs') : WellFormed fs' where
  distinct := (h.entries.map _).nodup_iff.2 hfs.distinct
  proper p hp := hfs.proper p ((h.entries.map _).mem_iff.1 hp)

end WellFormed

theorem Reordered.same_entry (h : Reordered fs fs') (hfs : WellFormed fs) (p : Place) : fs'.entry? p = fs.entry? p := by
  unfold Files.entry?
  split
  · rfl
  · refine Option.ext fun e => ?_
    rw [(hfs.reordered h).lookup_iff, hfs.lookup_iff]
    exact h.entries.mem_iff

/-! ## What a tree with the same entries answers -/

section Same

variable (hentry : ∀ p, fs'.entry? p = fs.entry? p)
include hentry

theorem isDirectoryAt_same (p : Place) : fs'.isDirectoryAt p = fs.isDirectoryAt p := by
  unfold isDirectoryAt
  rw [hentry]

theorem enter_same (at_ : Place) (seg : List Char) : fs'.enter at_ seg = fs.enter at_ seg := by
  simp only [enter, isDirectoryAt_same hentry, hentry]

theorem advance_same (jump : Place → List (List Char) → Except IoError (Place × Nat)) (n : Nat)
    (segs : List (List Char)) : ∀ at_ : Place, fs'.advance jump n at_ segs = fs.advance jump n at_ segs := by
  induction segs with
  | nil => exact fun _ => rfl
  | cons seg segs ih =>
    intro at_
    unfold advance
    rw [enter_same hentry]
    split
    · rfl
    · exact ih _
    · rfl

theorem follow_same (n : Nat) : fs'.follow n = fs.follow n := by
  induction n with
  | zero => exact funext₂ fun at_ segs => advance_same hentry _ 0 segs at_
  | succ n ih =>
    refine funext₂ fun at_ segs => ?_
    rw [follow, follow, ih]
    exact advance_same hentry _ (n + 1) segs at_

theorem resolve_same (hhere : fs'.here = fs.here) (p : Path) : fs'.resolve p = fs.resolve p := by
  unfold resolve start
  rw [follow_same hentry, hhere]

theorem lookup?_same (hhere : fs'.here = fs.here) (p : Path) : fs'.lookup? p = fs.lookup? p := by
  unfold lookup?
  rw [resolve_same hentry hhere]
  split
  · exact hentry _
  · rfl

end Same

theorem isDirectory_reordered (hfs : WellFormed fs) (h : Reordered fs fs') (p : Path) :
    fs'.isDirectory p = fs.isDirectory p := by
  unfold isDirectory
  rw [lookup?_same (h.same_entry hfs) h.here]

/-! ## What the operations keep -/

theorem keys_setEntry (p : Place) (e : Entry) : ∀ es : List (Place × Entry),
    (setEntry p e es).map (·.1) = if p ∈ es.map (·.1) then es.map (·.1) else es.map (·.1) ++ [p]
  | [] => by simp [setEntry]
  | (q, d) :: es => by
    rw [setEntry]
    split
    · next hq => simp [hq]
    · next hq =>
      rw [List.map_cons, keys_setEntry p e es, List.map_cons]
      by_cases hmem : p ∈ es.map (·.1)
      · rw [if_pos hmem, if_pos (List.mem_cons_of_mem _ hmem)]
      · rw [if_neg hmem, if_neg (fun h => hmem (List.mem_of_ne_of_mem (Ne.symm hq) h)), List.cons_append]

theorem ok_of_bind {ε α β : Type} {m : Except ε α} {k : α → Except ε β} {b : β} (h : (m >>= k) = .ok b) :
    ∃ a, m = .ok a ∧ k a = .ok b := by
  cases m with
  | error e => cases h
  | ok a => exact ⟨a, rfl, h⟩

/-- No text between slashes has a slash. -/
theorem slash_not_mem {p : Path} {seg : List Char} (h : seg ∈ p.segments) : '/' ∉ seg := Text.not_mem_of_mem_splitAt h

namespace WellFormed

theorem put (hfs : WellFormed fs) {p : Place} (hp : ∀ name ∈ p, Proper name) (e : Entry) :
    WellFormed (fs.put p e) := by
  have hkeys := keys_setEntry p e fs.entries
  by_cases hmem : p ∈ fs.entries.map (·.1)
  · rw [if_pos hmem] at hkeys
    exact ⟨hkeys ▸ hfs.distinct, hkeys ▸ hfs.proper⟩
  · rw [if_neg hmem] at hkeys
    refine ⟨?_, ?_⟩
    · rw [Files.put, hkeys]
      exact (List.perm_append_singleton p _).nodup_iff.2 (List.nodup_cons.2 ⟨hmem, hfs.distinct⟩)
    · rw [Files.put, hkeys]
      exact List.forall_mem_append.2 ⟨hfs.proper, List.forall_mem_singleton.2 hp⟩

theorem drop (hfs : WellFormed fs) (p : Place) : WellFormed (fs.drop p) := by
  have hkeys : ((fs.drop p).entries.map (·.1)).Sublist (fs.entries.map (·.1)) := List.filter_sublist.map _
  exact ⟨hfs.distinct.sublist hkeys, fun q hq => hfs.proper q (hkeys.subset hq)⟩

theorem proper_of_directory (hfs : WellFormed fs) (h : fs.isDirectoryAt place = true) :
    ∀ name ∈ place, Proper name := by
  rcases List.eq_nil_or_concat place with rfl | ⟨q, last, rfl⟩
  · exact fun name hname => by cases hname
  · rw [List.concat_eq_append] at h ⊢
    unfold isDirectoryAt at h
    cases hentry : fs.entry? (q ++ [last]) with
    | none => simp [hentry] at h
    | some e => exact hfs.proper _ (place_mem_of_entry hentry)

/-- A name put into a directory makes a proper place. -/
theorem put_name (hfs : WellFormed fs) (hdir : fs.isDirectoryAt place = true) {segs : List (List Char)}
    (hsegs : ∀ seg ∈ segs, '/' ∉ seg) (hlast : (cut segs).last = .name name) (e : Entry) :
    WellFormed (fs.put (place ++ [name]) e) := by
  obtain ⟨k, heq, hname⟩ := segments_of_cut hlast
  refine hfs.put (List.forall_mem_append.2 ⟨hfs.proper_of_directory hdir, List.forall_mem_singleton.2 ⟨hname, ?_⟩⟩) e
  exact hsegs _ (heq ▸ by simp)

theorem put_parent (hfs : WellFormed fs) {p : Path} (h : fs.parentOf p = .ok (place, .name name)) (e : Entry) :
    WellFormed (fs.put (place ++ [name]) e) := by
  obtain ⟨-, hlast, m, hdir⟩ := parentOf_ok h
  obtain ⟨-, hd, -⟩ := directoryOf_ok hdir
  exact hfs.put_name hd (fun _ => slash_not_mem) hlast e

theorem makeDirectory (hfs : WellFormed fs) {p : Path} (h : fs.makeDirectory p = .ok fs') : WellFormed fs' := by
  obtain ⟨place, name, hparent, -, rfl⟩ := makeDirectory_ok h
  exact hfs.put_parent hparent _

theorem withDirectories (hfs : WellFormed fs) (p : Path) : WellFormed (fs.withDirectories p).1 :=
  makeDirectories_keeps (fun hfs hmade => hfs.makeDirectory hmade) hfs _ p

theorem replace (hfs : WellFormed fs) {p : Path} {content : ByteArray} (h : fs.replace p content = .ok fs') :
    WellFormed fs' := by
  obtain ⟨place, name, hparent, -, -, rfl⟩ := replace_ok h
  exact hfs.put_parent hparent _

theorem makeLink (hfs : WellFormed fs) {p target : Path} (h : fs.makeLink p target = .ok fs') : WellFormed fs' := by
  obtain ⟨⟨place, last⟩, hparent, h⟩ := ok_of_bind h
  cases last with
  | dots => cases h
  | name s =>
    dsimp only at h
    split at h
    · cases h
    · cases h
      exact hfs.put_parent hparent _

theorem remove (hfs : WellFormed fs) {p : Path} (h : fs.remove p = .ok fs') : WellFormed fs' := by
  obtain ⟨⟨place, last⟩, -, h⟩ := ok_of_bind h
  cases last with
  | dots => cases h
  | name s =>
    dsimp only at h
    split at h
    · cases h
    · split at h
      · cases h
      · cases h
      · cases h
        exact hfs.drop _

/-- A file is written where its path ends, or behind the link that is there. -/
theorem writeAt (hfs : WellFormed fs) {content : ByteArray} : ∀ (fuel : Nat) {links : Nat} {at_ : Place}
    {segs : List (List Char)}, (∀ seg ∈ segs, '/' ∉ seg) → fs.writeAt content fuel links at_ segs = .ok fs' →
      WellFormed fs'
  | 0, _, _, _, _, h => by cases h
  | fuel + 1, links, at_, segs, hsegs, h => by
    unfold Files.writeAt at h
    obtain ⟨⟨place, left⟩, hdir, h⟩ := ok_of_bind h
    obtain ⟨-, hd, -⟩ := directoryOf_ok hdir
    cases hlast : (cut segs).last with
    | dots =>
      rw [hlast] at h
      cases h
    | name s =>
      simp only [hlast] at h
      split at h
      · cases h
      · split at h
        · cases h
        · cases h
        · exact hfs.writeAt fuel (fun _ => slash_not_mem) h
        · cases h
          exact hfs.put_name hd hsegs hlast _

theorem write (hfs : WellFormed fs) {p : Path} {content : ByteArray} (h : fs.write p content = .ok fs') :
    WellFormed fs' := by
  obtain ⟨-, -, h⟩ := ok_of_bind h
  exact hfs.writeAt _ (fun _ => slash_not_mem) h

end WellFormed

end SnippetAudit.Files
