import Orchestration.Proofs.Requests
import Orchestration.Store.Remote

namespace Orchestration

theorem Text.pieces_of_none {cut : Char → Bool} {cs : List Char} (none : ∀ c ∈ cs, cut c = false) : pieces cut cs = [cs] := by
  induction cs with
  | nil => rfl
  | cons c cs ih =>
    obtain ⟨first, others⟩ := List.forall_mem_cons.mp none
    simp [pieces, first, ih others]

namespace Web

-- What stands for itself in a path.
def isBare (c : Char) : Bool := isUnreserved c || c == '/'

theorem bare_ascii (bare : isBare c = true) : c.toNat < 128 := by
  have upper : c.isUpper = decide ('A'.val ≤ c.val ∧ c.val ≤ 'Z'.val) := rfl
  have lower : c.isLower = (decide ('a'.val ≤ c.val) && decide (c.val ≤ 'z'.val)) := rfl
  have letter : c.isAlpha = (c.isUpper || c.isLower) := rfl
  simp only [isBare, isUnreserved, Char.isAlphanum, letter, upper, lower, Char.isDigit, Bool.or_eq_true,
    Bool.and_eq_true, decide_eq_true_eq, List.contains_iff_mem, List.mem_cons, List.not_mem_nil, or_false,
    beq_iff_eq] at bare
  rcases bare with ((((above | low) | digit) | mark) | rfl)
  · exact Nat.lt_of_le_of_lt (UInt32.le_iff_toNat_le.mp above.2) (by decide)
  · exact Nat.lt_of_le_of_lt (UInt32.le_iff_toNat_le.mp low.2) (by decide)
  · exact Nat.lt_of_le_of_lt (UInt32.le_iff_toNat_le.mp digit.2) (by decide)
  · rcases mark with rfl | rfl | rfl | rfl <;> decide
  · decide

structure Inert (c : Char) : Prop where
  unescaped : c ≠ '%'
  printed : Address.isControl c = false
  ends : (c != '?' && c != '#') = true
  safe : Address.isPathSafe c = true
  unmarked : c ≠ Text.mark

theorem bare_inert (bare : isBare c = true) : Inert c := by
  have each : ∀ n < 128, isBare (Char.ofNat n) = true → Char.ofNat n ≠ '%' ∧ Address.isControl (Char.ofNat n) = false ∧
      (Char.ofNat n != '?' && Char.ofNat n != '#') = true ∧ Address.isPathSafe (Char.ofNat n) = true ∧
      Char.ofNat n ≠ Text.mark := by decide +kernel
  have known := each c.toNat (bare_ascii bare)
  rw [Char.ofNat_toNat] at known
  obtain ⟨unescaped, printed, ends, safe, unmarked⟩ := known bare
  exact ⟨unescaped, printed, ends, safe, unmarked⟩

section Bare

variable {cs : List Char} (bare : ∀ c ∈ cs, isBare c = true)
include bare

theorem quote_bare : quote Address.isPathSafe cs = cs := by
  induction cs with
  | nil => rfl
  | cons c cs ih =>
    obtain ⟨first, others⟩ := List.forall_mem_cons.mp bare
    rw [quote, if_pos (bare_inert first).safe, ih others]
    · rfl
    · rintro _ _ _ rfl
      exact absurd rfl (bare_inert first).unescaped

theorem written_bare : Address.written Address.isPathSafe cs = .ok cs := by
  have unmarked : ∀ c ∈ cs, c ≠ Text.mark := fun c mem => (bare_inert (bare c mem)).unmarked
  rw [Address.written, Text.broken_of_unmarked unmarked, Text.chars_of_unmarked unmarked, quote_bare bare]
  rfl

theorem bytes_bare : bytes cs = cs.map fun c => UInt8.ofNat c.toNat := by
  induction cs with
  | nil => rfl
  | cons c cs ih =>
    obtain ⟨first, others⟩ := List.forall_mem_cons.mp bare
    have short : c.val.toNat ≤ 127 := Nat.le_of_lt_succ (bare_ascii first)
    rw [bytes, ih others, Text.utf8, String.utf8EncodeChar, if_pos short]
    · rfl
    · rintro _ _ _ rfl
      exact absurd rfl (bare_inert first).unescaped

theorem plain_bare : plain cs = cs := by
  rw [plain, bytes_bare bare]
  induction cs with
  | nil => rfl
  | cons c cs ih =>
    obtain ⟨first, others⟩ := List.forall_mem_cons.mp bare
    have ascii := bare_ascii first
    have byte : (UInt8.ofNat c.toNat).toNat = c.toNat := by
      rw [UInt8.toNat_ofNat']
      omega
    rw [List.map_cons, Text.decode_ascii _ (by omega), byte, Char.ofNat_toNat, ih others]

end Bare

namespace Address

theorem ofParts_path {scheme authority path : List Char} {a : Address}
    (empty : ofParts scheme authority [] none none = .ok a) (front : path.head? = some '/')
    (named : scheme ≠ []) (steps : resolved path = path) (bare : ∀ c ∈ path, isBare c = true) :
    ofParts scheme authority path none none = .ok { a with path := path } := by
  have schemed : scheme.isEmpty = false := by simpa using named
  unfold ofParts at empty ⊢
  cases user : written isUserSafe (cutUser authority).1 with
  | error fault => simp [bind, Except.bind, user] at empty
  | ok user' =>
    cases host : host? (cutHost (cutUser authority).2).1 with
    | none => simp [bind, Except.bind, user, host] at empty
    | some host' =>
      cases port : readPort scheme (cutHost (cutUser authority).2).2 with
      | error fault => simp [bind, Except.bind, user, host, port] at empty
      | ok port' =>
        have nothing : written isPathSafe (resolved []) = .ok [] := by decide
        simp [bind, Except.bind, user, host, port, schemed, front, steps, written_bare bare] at empty ⊢
        simp only [nothing, writtenPart] at empty ⊢
        cases empty
        rfl

-- How the address of a server is written: a scheme, and behind two slashes who serves.
structure Written (text scheme authority : List Char) : Prop where
  parts : text = scheme ++ ':' :: '/' :: '/' :: authority
  first : scheme.head?.any Char.isAlpha = true
  letters : ∀ c ∈ scheme, isSchemeChar c = true
  ends : ∀ c ∈ authority, (c != '/' && c != '?' && c != '#') = true

theorem cutScheme_written {scheme rest : List Char} (first : scheme.head?.any Char.isAlpha = true)
    (letters : ∀ c ∈ scheme, isSchemeChar c = true) : cutScheme (scheme ++ ':' :: rest) = (scheme, rest) := by
  have named : (scheme ++ ':' :: rest).head?.any Char.isAlpha = true := by
    cases scheme with
    | nil => cases first
    | cons c more => exact first
  have taken : (scheme ++ ':' :: rest).takeWhile isSchemeChar = scheme := by
    rw [List.takeWhile_append_of_pos letters, List.takeWhile_cons_of_neg (by decide), List.append_nil]
  simp only [cutScheme, named, if_true, taken, List.drop_left]

theorem cutAuthority_written {authority path : List Char}
    (ends : ∀ c ∈ authority, (c != '/' && c != '?' && c != '#') = true) (front : ∀ c ∈ path.head?, c = '/') :
    cutAuthority ('/' :: '/' :: (authority ++ path)) = (authority, path) := by
  have taken : (authority ++ path).takeWhile (fun c => c != '/' && c != '?' && c != '#') = authority := by
    rw [List.takeWhile_append_of_pos ends]
    cases path with
    | nil => simp
    | cons c rest =>
      cases front c rfl
      simp
  simp only [cutAuthority, taken, List.drop_left]

theorem parse_written {text scheme authority path : List Char} (server : Written text scheme authority)
    (front : ∀ c ∈ path.head?, c = '/') (bare : ∀ c ∈ path, isBare c = true) :
    parse (text ++ path) = if longest < (Text.points (text ++ path)).length || text.any isControl then .error .malformed
      else ofParts scheme authority path none none := by
  have printed : path.any isControl = false :=
    List.any_eq_false.mpr fun c mem => by simpa using (bare_inert (bare c mem)).printed
  have whole : path.takeWhile (fun c => c != '?' && c != '#') = path := by
    rw [← List.append_nil path, List.takeWhile_append_of_pos fun c mem => (bare_inert (bare c mem)).ends]
    simp
  have cut : cutScheme (text ++ path) = (scheme, '/' :: '/' :: (authority ++ path)) := by
    rw [server.parts, List.append_assoc]
    exact cutScheme_written server.first server.letters
  simp only [parse, List.any_append, printed, Bool.or_false, cut, cutAuthority_written server.ends front, whole,
    List.drop_length]
  rfl

-- From nowhere only an address that has a server is seen to have one.
theorem absolute_of_seen {a : Address} (absolute : (a.seenFrom nowhere).isAbsolute = true) : a.isAbsolute = true := by
  unfold seenFrom at absolute
  split at absolute
  · assumption
  · cases absolute

theorem destination_path {text scheme authority path : List Char} {a : Address} (server : Written text scheme authority)
    (reads : nowhere.destination text = .ok a) (absolute : a.isAbsolute = true) (fits : (Text.points (text ++ path)).length ≤ longest)
    (front : path.head? = some '/') (steps : resolved path = path) (bare : ∀ c ∈ path, isBare c = true) :
    nowhere.destination (text ++ path) = .ok { a with path := path } := by
  have alone : parse (text ++ []) = _ := parse_written server (fun _ mem => nomatch mem) fun _ mem => nomatch mem
  have behind := parse_written server (fun c mem => Option.some.inj (mem.symm.trans front)) bare
  rw [List.append_nil] at alone
  unfold destination at reads ⊢
  obtain ⟨b, parsed, seen⟩ := bind_parts reads
  dsimp only at seen
  split at seen
  · rename_i ascii
    cases seen
    have here := absolute_of_seen absolute
    have named : scheme ≠ [] := by
      rintro rfl
      cases server.first
    rw [seenFrom_of_isAbsolute _ here] at ascii ⊢
    rw [parsed] at alone
    split at alone
    · cases alone
    · rename_i printed
      have printed : ¬ (decide (longest < (Text.points (text ++ path)).length) || text.any isControl) = true := by
        rw [Bool.or_eq_true, decide_eq_true_eq] at printed ⊢
        rintro (long | control)
        · exact absurd long (Nat.not_lt.mpr fits)
        · exact printed (.inr control)
      rw [behind, if_neg printed, ofParts_path alone.symm front named steps bare]
      simp only [bind, Except.bind]
      rw [seenFrom_of_isAbsolute (a := { b with path := path }) _ here, if_pos ascii]
      rfl
  · cases seen

end Address

end Web

namespace RemoteStore

-- An id that nothing is escaped of, and that is no step to the same or the upper level.
structure Unescaped (id : String) : Prop where
  named : id ≠ ""
  plain : ∀ c ∈ id.toList, Web.isUnreserved c = true
  level : id ≠ "." ∧ id ≠ ".."

-- A client asks this server under that address.
structure Asking (base : String) (a : Web.Address) : Prop where
  written : ∃ scheme authority, Web.Address.Written (server base).toList scheme authority
  reads : Web.Address.nowhere.destination (server base).toList = .ok a
  absolute : a.isAbsolute = true

-- An address of that id that is not too long.
def Fits (base id : String) : Prop :=
  (Text.points (server base ++ "/api/orchestrators/" ++ id).toList).length ≤ Web.Address.longest

def pathOf (id : String) : List Char := ("/api/orchestrators/" ++ id).toList

variable {base id : String}

theorem pathOf_eq (id : String) : pathOf id =
    '/' :: ("api".toList ++ '/' :: ("orchestrators".toList ++ '/' :: id.toList)) :=
  String.toList_append

theorem Unescaped.bare (plain : Unescaped id) : ∀ c ∈ pathOf id, Web.isBare c = true := by
  have front : ∀ c ∈ '/' :: '/' :: '/' :: ("api".toList ++ "orchestrators".toList), Web.isBare c = true :=
    List.all_eq_true.mp (by decide)
  have own : ∀ c ∈ id.toList, Web.isBare c = true := fun c mem => by rw [Web.isBare, plain.plain c mem, Bool.true_or]
  simp only [List.forall_mem_cons, List.forall_mem_append] at front
  simp only [pathOf_eq, List.forall_mem_cons, List.forall_mem_append]
  exact ⟨front.1, front.2.2.2.1, front.1, front.2.2.2.2, front.1, own⟩

theorem Unescaped.pieces (plain : Unescaped id) : Text.pieces (· == '/') (pathOf id) =
    ["".toList, "api".toList, "orchestrators".toList, id.toList] := by
  have whole : Text.pieces (· == '/') id.toList = [id.toList] := by
    refine Text.pieces_of_none fun c mem => beq_false_of_ne ?_
    rintro rfl
    exact absurd (plain.plain _ mem) (by decide)
  simp [pathOf_eq, Text.pieces, whole]

theorem Unescaped.steps (plain : Unescaped id) : Web.Address.resolved (pathOf id) = pathOf id := by
  have here : id.toList ≠ ['.'] := fun same => plain.level.1 (String.toList_inj.mp same)
  have above : id.toList ≠ ['.', '.'] := fun same => plain.level.2 (String.toList_inj.mp same)
  simp [Web.Address.resolved, plain.pieces, here.symm, above.symm]

theorem address_lands (asking : Asking base a) (plain : Unescaped id)
    (fits : Fits base id) :
    address base id = .ok { a with path := pathOf id } := by
  obtain ⟨scheme, authority, written⟩ := asking.written
  have text : (server base ++ "/api/orchestrators/" ++ id).toList = (server base).toList ++ pathOf id := by
    rw [String.append_assoc, String.toList_append]
    rfl
  rw [Fits, text] at fits
  rw [address, text, Web.Address.destination_path written asking.reads asking.absolute fits (by rw [pathOf_eq]; rfl)
    plain.steps plain.bare]
  rfl

theorem endpoint_lands (plain : Unescaped id) (r : Service.Request) (path : r.address.path = pathOf id) :
    Service.endpoint? r.path = some (.orchestrator id) := by
  have some : (pathOf id).isEmpty = false := by simp [pathOf_eq]
  have same : r.path = pathOf id := by
    simp [Service.Request.path, path, some, Web.plain_bare plain.bare]
  have own : Text.spellChars id.toList = id.toList :=
    Text.spellChars_of_unmarked fun c mem => (Web.bare_inert (by rw [Web.isBare, plain.plain c mem]; rfl)).unmarked
  have steps : (Text.pieces (· == '/') (pathOf id)).map (fun step => String.ofList (Text.spellChars step)) =
      ["", "api", "orchestrators", id] := by
    have known : ∀ step ∈ ["", "api", "orchestrators"], String.ofList (Text.spellChars step.toList) = step := by decide
    simp only [List.forall_mem_cons] at known
    simp only [plain.pieces, List.map_cons, List.map_nil, own, String.ofList_toList, known]
  simp only [same, Service.endpoint?, Service.ofPath, steps]
  simp [Service.ofSteps, plain.named, Service.ofOrchestrator]

end RemoteStore

end Orchestration
