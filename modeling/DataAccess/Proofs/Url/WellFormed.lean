import DataAccess.Url.Location
import DataAccess.Proofs.Url.Path
import DataAccess.Proofs.Url.Percent

/-!
# Well-formed URLs

In a well-formed URL every part is in the form in which reading it leaves it. A new URL is
well-formed, and every setter keeps it so, whatever text it is given.
-/

namespace DataAccess.Url

open Number Percent
open Text (forall_of_ofNat lt_of_isAlphanum)

/-! ## Form -/

/-- A host that is read from its text. -/
def Host.Readable : Host → Prop
  | .name cs => Encoded (fun c => isControl c || isForbidden c) cs
  | .address _ => True

/-- A URL with each part in the form in which reading leaves it. -/
structure WellFormed (u : Url) : Prop where
  scheme : ∃ first rest, u.scheme = first :: rest ∧ first.isAlpha = true
  inScheme : ∀ c ∈ u.scheme, Location.inScheme c = true ∧ c.toLower = c
  username : Encoded inUserinfo u.username
  password : Encoded inUserinfo u.password
  host : u.host.Readable
  path : ∃ p : Path, p.Normal ∧ p.text = u.path
  query : ∀ q ∈ u.query, Encoded inQuery q
  fragment : ∀ f ∈ u.fragment, Encoded inFragment f

variable {u : Url}

/-! ## Form encoding -/

theorem Form.plain_of_isPlain {c : Char} (h : isPlain c = true) :
    inQuery c = false ∧ c.toNat < 128 := by
  have hascii : c.toNat < 128 := by
    have hmarks : ∀ c ∈ "*-._".toList, c.toNat < 128 := by simp
    rcases Bool.or_eq_true_iff.mp h with h | h
    · exact lt_of_isAlphanum h
    · exact hmarks c (List.contains_iff_mem.mp h)
  have hfree : ∀ n < 128, isPlain (Char.ofNat n) = true → inQuery (Char.ofNat n) = false := by
    decide
  exact ⟨forall_of_ofNat (P := fun c => isPlain c = true → inQuery c = false) hfree c hascii h,
    hascii⟩

theorem Form.encoded_encode (cs : List Char) : Encoded inQuery (encode cs) := by
  intro c hc
  obtain ⟨d, -, hd⟩ := List.mem_flatMap.mp hc
  unfold encodeChar at hd
  split at hd
  · cases List.mem_singleton.mp hd
    decide
  · split at hd
    · next hplain =>
      cases List.mem_singleton.mp hd
      exact plain_of_isPlain hplain
    · obtain ⟨b, -, hb⟩ := List.mem_flatMap.mp hd
      exact encoded_encodeByte leavesCodes_inQuery b c hb

theorem Form.encoded_encodePair (pair : String × String) : Encoded inQuery (encodePair pair) := by
  have hmark : Encoded inQuery ['='] := encoded_singleton.mpr (by decide)
  simpa [encodePair] using
    (encoded_encode _).append (hmark.append (encoded_encode pair.2.toList))

/-! ## Setting parts -/

theorem Host.readable_of_parse {cs : List Char} {host : Host} (h : parse cs = .ok host) :
    host.Readable := by
  have hset : LeavesCodes fun c => isControl c || isForbidden c :=
    leavesCodes_of_ascii (by decide) (by decide)
  unfold parse at h
  split at h
  · split at h
    · split at h
      · cases h
        trivial
      · cases h
    · cases h
  · split at h
    · cases h
    · next hfree =>
      cases h
      exact encoded_encode_or hset fun c hc => by simp_all

namespace WellFormed

variable {v : Url} {cs : List Char}

theorem ofScheme {scheme : String}
    (hfirst : ∃ first rest, scheme.toList = first :: rest ∧ first.isAlpha = true)
    (hscheme : scheme.toList.all (fun c => Location.inScheme c && c.toLower == c) = true) :
    (ofScheme scheme).WellFormed where
  scheme := hfirst
  inScheme c hc := by simpa using List.all_eq_true.mp hscheme c hc
  username := List.forall_mem_nil _
  password := List.forall_mem_nil _
  host := @Host.readable_of_parse "localhost".toList _ rfl
  path := ⟨[], List.forall_mem_nil _, rfl⟩
  query := nofun
  fragment := nofun

theorem setHost (h : u.WellFormed) (hset : u.setHost cs = .ok v) : v.WellFormed := by
  unfold Url.setHost at hset
  split at hset
  · cases hset
  · split at hset
    · next host hparse =>
      cases hset
      exact { h with host := Host.readable_of_parse hparse }
    · cases hset

theorem setUsername? (h : u.WellFormed) (hset : u.setUsername? cs = some v) : v.WellFormed := by
  unfold Url.setUsername? at hset
  split at hset
  · cases hset
  · cases hset
    exact { h with username := encoded_encode leavesCodes_inUserinfo cs }

theorem setPassword? (h : u.WellFormed) (hset : u.setPassword? cs = some v) : v.WellFormed := by
  unfold Url.setPassword? at hset
  split at hset
  · cases hset
  · cases hset
    exact { h with password := encoded_encode leavesCodes_inUserinfo cs }

theorem setPath (h : u.WellFormed) (cs : List Char) : (u.setPath cs).WellFormed :=
  { h with path := ⟨Path.ofText cs, Path.normal_ofText cs, rfl⟩ }

theorem setPort? {port : UInt16} (h : u.WellFormed) (hset : u.setPort? port = some v) :
    v.WellFormed := by
  unfold Url.setPort? at hset
  split at hset
  · cases hset
  · cases hset
    exact { h with }

theorem appendPair (h : u.WellFormed) (key value : String) :
    (u.appendPair key value).WellFormed := by
  have hpair := Form.encoded_encodePair (key, value)
  unfold Url.appendPair
  split
  · refine { h with query := ?_ }
    rintro q ⟨⟩
    exact hpair
  · next before hbefore =>
    have hmark : Encoded inQuery ['&'] := encoded_singleton.mpr (by decide)
    refine { h with query := ?_ }
    rintro q ⟨⟩
    simpa using (h.query before hbefore).append (hmark.append hpair)

theorem appendPairs (h : u.WellFormed) (pairs : List (String × String)) :
    (u.appendPairs pairs).WellFormed := by
  unfold Url.appendPairs
  induction pairs generalizing u with
  | nil => exact h
  | cons pair rest ih => exact ih (h.appendPair pair.1 pair.2)

end WellFormed

end DataAccess.Url
