import DataAccess.Text.Blank
import DataAccess.Text.Quoted

/-!
# Keyword lists

Pairs of a key and a value, each written as key, `=` and value with blanks around any of them. A
value stands in single quotes or ends at the first blank; in both forms a backslash takes the next
character as it is.
-/

namespace DataAccess.Dsn.Keywords

open Text

/-- What can be wrong with a list of keywords. -/
inductive Fault where
  /-- A key without an equals sign, or an equals sign without a key. -/
  | expectedPair (key : String)
  /-- A quote that is not closed. -/
  | unterminated (key : String)
deriving DecidableEq

/-- The reason that an error gives for a fault. -/
def Fault.reason : Fault → String
  | expectedPair k => "expected key=value near " ++ quoted k
  | unterminated k => "unterminated value for " ++ quoted k

/-- Put a character in front of a value that was read. -/
def push (c : Char) (r : List Char × List Char) : List Char × List Char := (c :: r.1, r.2)

/-- A value in quotes, of which the first is gone, and what follows it. -/
def quotedValue : List Char → Option (List Char × List Char)
  | [] => none
  | '\'' :: rest => some ([], rest)
  | '\\' :: c :: rest => (quotedValue rest).map (push c)
  | ['\\'] => none
  | c :: rest => (quotedValue rest).map (push c)

/-- A value without quotes, and what follows it. A backslash at the very end counts for nothing. -/
def plainValue : List Char → List Char × List Char
  | [] => ([], [])
  | '\\' :: c :: rest => push c (plainValue rest)
  | ['\\'] => ([], [])
  | c :: rest => if isBlank c then ([], c :: rest) else push c (plainValue rest)

/-- A value and what follows it. -/
def value (cs : List Char) : Option (List Char × List Char) :=
  match cs with
  | '\'' :: rest => quotedValue rest
  | cs => some (plainValue cs)

/-- A character of a key. -/
def isKeyChar (c : Char) : Bool := c != '=' && !isBlank c

/-! ### What is left gets shorter -/

theorem quotedValue_length {cs v rest : List Char} (h : quotedValue cs = some (v, rest)) :
    rest.length ≤ cs.length := by
  fun_induction quotedValue cs generalizing v rest with
  | case1 => simp at h
  | case2 r => simp only [Option.some.injEq, Prod.mk.injEq] at h; simp [h.2]
  | case3 c r ih =>
    obtain ⟨u, hu, hr⟩ := Option.map_eq_some_iff.1 h
    simp only [push, Prod.mk.injEq] at hr
    have := ih hu
    simp only [List.length_cons, ← hr.2]
    omega
  | case4 => simp at h
  | case5 c r _ _ _ ih =>
    obtain ⟨u, hu, hr⟩ := Option.map_eq_some_iff.1 h
    simp only [push, Prod.mk.injEq] at hr
    have := ih hu
    simp only [List.length_cons, ← hr.2]
    omega

theorem plainValue_length (cs : List Char) : (plainValue cs).2.length ≤ cs.length := by
  fun_induction plainValue cs with
  | case1 => simp
  | case2 c r ih => simp only [push, List.length_cons]; omega
  | case3 => simp
  | case4 => simp
  | case5 c r _ _ _ ih => simp only [push, List.length_cons]; omega

theorem value_length {cs v rest : List Char} (h : value cs = some (v, rest)) :
    rest.length ≤ cs.length := by
  unfold value at h
  split at h
  · next r =>
    have := quotedValue_length h
    simp only [List.length_cons]
    omega
  · have := plainValue_length cs
    simp only [Option.some.injEq] at h
    rw [h] at this
    exact this

/-! ### Lists -/

/-- Read a list of keywords. -/
def parse (cs : List Char) : Except Fault (List (String × String)) :=
  match _f : cs.dropWhile isBlank with
  | [] => .ok []
  | first :: tail =>
    let key := (first :: tail).takeWhile isKeyChar
    match _e : ((first :: tail).dropWhile isKeyChar).dropWhile isBlank with
    | '=' :: after =>
      if key.isEmpty then .error (.expectedPair (String.ofList key))
      else
        match _v : value (after.dropWhile isBlank) with
        | none => .error (.unterminated (String.ofList key))
        | some (v, rest) => (parse rest).map ((String.ofList key, String.ofList v) :: ·)
    | _ => .error (.expectedPair (String.ofList key))
termination_by cs.length
decreasing_by
  have h1 := value_length _v
  have h2 := (List.dropWhile_suffix (l := after) isBlank).length_le
  have h3 := (List.dropWhile_suffix (l := (first :: tail).dropWhile isKeyChar) isBlank).length_le
  have h4 := (List.dropWhile_suffix (l := first :: tail) isKeyChar).length_le
  have h5 := (List.dropWhile_suffix (l := cs) isBlank).length_le
  rw [_e] at h3
  rw [_f] at h5
  simp only [List.length_cons] at h3 h4 h5
  omega

end DataAccess.Dsn.Keywords
