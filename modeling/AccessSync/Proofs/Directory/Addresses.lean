import AccessSync.Directory.Url
import AccessSync.Json.Reader
import AccessSync.Proofs.Identifier

/-!
# Addresses read back

Identifiers and filters come from outside, and an address with one of them in it goes out together
with a token.  Whoever reads the address by its separators finds the segments and parameters that it
was made of and nothing else: no character of them ends a piece of the address early or adds one.
-/

namespace AccessSync.Directory

/-! ## Reading addresses -/

/-- The characters before the first occurrence of `sep`, and those after it if it occurs. -/
def cut (sep : Char) : List Char → List Char × Option (List Char)
  | [] => ([], none)
  | c :: rest =>
    if c = sep then ([], some rest)
    else
      let (before, after) := cut sep rest
      (c :: before, after)

/-- The bytes that percent-encoded characters stand for.  A percent sign starts two hexadecimal
digits, and every other character stands for its own bytes. -/
def bytes? : List Char → Option (List UInt8)
  | [] => some []
  | c :: rest =>
    if c = '%' then
      match rest with
      | high :: low :: rest => do
        let byte := UInt8.ofNat (16 * (← Text.hexValue? high) + (← Text.hexValue? low))
        return byte :: (← bytes? rest)
      | _ => none
    else do
      return String.utf8EncodeChar c ++ (← bytes? rest)

/-- The text whose bytes are encoded. -/
def decoded? (cs : List Char) : Option String := do
  String.fromUTF8? (← bytes? cs).toByteArray

def parameter? (piece : List Char) : Option (String × String) := do
  let (key, value) := cut '=' piece
  return (← decoded? key, ← decoded? (← value))

def parameters? (query : List Char) : Option (List (String × String)) :=
  (Text.splitChars '&' query).mapM parameter?

/-- The parameters of the query that an address has, or of none. -/
def query? : Option (List Char) → Option (Option (List (String × String)))
  | none => some none
  | some query => (parameters? query).map some

/-- What an address of the directory asks for. -/
structure Address where
  version : String
  path : List String
  /-- The parameters of the query, where there is a question mark. -/
  query : Option (List (String × String))
  deriving DecidableEq

/-- The address in a text that starts with the host of the directory. -/
def Address.read? (text : String) : Option Address := do
  let afterHost ← Text.dropStart? (host ++ "/") text
  let (version, afterVersion) := cut '/' afterHost.toList
  let (path, query) := cut '?' (← afterVersion)
  return {
    version := String.ofList version
    path := ← (Text.splitChars '/' path).mapM decoded?
    query := ← query? query }

/-- The one text is the other without the slashes at its ends. -/
structure Trims (text trimmed : String) : Prop where
  ends : ∃ m n, text.toList = List.replicate m '/' ++ trimmed.toList ++ List.replicate n '/'
  first : trimmed.toList.head? ≠ some '/'
  last : trimmed.toList.getLast? ≠ some '/'

/-! ## Slashes at the ends -/

theorem exists_dropWhile_slashes (cs : List Char) :
    ∃ n, cs = List.replicate n '/' ++ cs.dropWhile (· == '/') := by
  induction cs with
  | nil => exact ⟨0, rfl⟩
  | cons c rest inductionHypothesis =>
    by_cases slash : c = '/'
    · subst slash
      obtain ⟨n, same⟩ := inductionHypothesis
      refine ⟨n + 1, ?_⟩
      rw [List.dropWhile_cons_of_pos (by simp), List.replicate_succ, List.cons_append, ← same]
    · refine ⟨0, ?_⟩
      rw [List.dropWhile_cons_of_neg (by simpa using slash)]
      rfl

theorem head?_dropWhile_slashes (cs : List Char) :
    (cs.dropWhile (· == '/')).head? ≠ some '/' := by
  intro first
  have stops := List.head?_dropWhile_not (· == '/') cs
  rw [first] at stops
  cases stops

theorem trims_trimSlashes (s : String) : Trims s (trimSlashes s) := by
  obtain ⟨m, front⟩ := exists_dropWhile_slashes s.toList
  obtain ⟨n, back⟩ := exists_dropWhile_slashes (s.toList.dropWhile (· == '/')).reverse
  have trimmed : s.toList.dropWhile (· == '/') =
      (trimSlashes s).toList ++ List.replicate n '/' := by
    have reversed := congrArg List.reverse back
    rw [List.reverse_reverse, List.reverse_append, List.reverse_replicate] at reversed
    rw [trimSlashes, String.toList_ofList]
    exact reversed
  refine ⟨⟨m, n, ?_⟩, fun first => ?_, fun last => ?_⟩
  · rw [List.append_assoc, ← trimmed]
    exact front
  · -- What is left starts where the text without its first slashes does.
    refine head?_dropWhile_slashes s.toList ?_
    rw [trimmed, List.head?_append, first]
    rfl
  · refine head?_dropWhile_slashes (s.toList.dropWhile (· == '/')).reverse ?_
    rw [← List.getLast?_reverse]
    rw [trimSlashes, String.toList_ofList] at last
    exact last

/-! ## Encoded texts -/

theorem isUnreserved_upperHexDigit : ∀ n < 16, isUnreserved (upperHexDigit n) = true := by
  decide

theorem hexValue?_upperHexDigit : ∀ n < 16, Text.hexValue? (upperHexDigit n) = some n := by
  decide

theorem bytes?_encodedByte (b : UInt8) (rest : List Char) :
    bytes? (encodedByte b ++ rest) = (bytes? rest).map (b :: ·) := by
  have bound : b.toNat < 256 := b.toNat_lt
  have high := hexValue?_upperHexDigit (b.toNat / 16) (by omega)
  have low := hexValue?_upperHexDigit (b.toNat % 16) (Nat.mod_lt _ (by decide))
  have whole : UInt8.ofNat (16 * (b.toNat / 16) + b.toNat % 16) = b := by
    rw [Nat.div_add_mod]
    exact UInt8.ofNat_toNat
  simp only [encodedByte, List.cons_append, List.nil_append, bytes?, if_pos, high, low,
    Option.bind_eq_bind, Option.bind_some, whole]
  rw [Option.map_eq_bind]
  rfl

theorem bytes?_encodedBytes (bytes : List UInt8) (rest : List Char) :
    bytes? (bytes.flatMap encodedByte ++ rest) = (bytes? rest).map (bytes ++ ·) := by
  induction bytes with
  | nil => simp
  | cons b bytes inductionHypothesis =>
    rw [List.flatMap_cons, List.append_assoc, bytes?_encodedByte, inductionHypothesis,
      Option.map_map]
    rfl

theorem bytes?_cons_of_ne {c : Char} (other : c ≠ '%') (rest : List Char) :
    bytes? (c :: rest) = (bytes? rest).map (String.utf8EncodeChar c ++ ·) := by
  rw [bytes?.eq_def]
  simp only [if_neg other]
  rw [Option.map_eq_bind]
  rfl

/-- An encoded character stands for the bytes of the character. -/
theorem bytes?_encodedChar {safe : List Char} (plain : '%' ∉ safe) (c : Char) (rest : List Char) :
    bytes? (encodedChar safe c ++ rest) = (bytes? rest).map (String.utf8EncodeChar c ++ ·) := by
  unfold encodedChar
  split
  next kept =>
    have other : c ≠ '%' := by
      rintro rfl
      simp [isUnreserved, plain] at kept
    exact bytes?_cons_of_ne other rest
  next => exact bytes?_encodedBytes _ rest

theorem bytes?_encoded {safe : List Char} (plain : '%' ∉ safe) (cs : List Char) :
    bytes? (cs.flatMap (encodedChar safe)) = some (cs.flatMap String.utf8EncodeChar) := by
  induction cs with
  | nil => rfl
  | cons c cs inductionHypothesis =>
    rw [List.flatMap_cons, bytes?_encodedChar plain, inductionHypothesis]
    rfl

/-- An encoded text decodes to the text. -/
theorem decoded?_encoded {safe : List Char} (plain : '%' ∉ safe) (s : String) :
    decoded? (encoded safe s) = some s := by
  have whole : (s.toList.flatMap String.utf8EncodeChar).toByteArray = s.toByteArray := by
    rw [← String.ofList_toList (s := s), String.toByteArray_ofList, String.toList_ofList]
    rfl
  rw [decoded?, encoded, bytes?_encoded plain]
  simp only [Option.bind_eq_bind, Option.bind_some, whole]
  rw [String.fromUTF8?, dif_pos s.isValidUTF8]
  rfl

/-- The character never needs encoding, or is one of those that stand for themselves here. -/
abbrev Allowed (others : List Char) (c : Char) : Prop := isUnreserved c = true ∨ c ∈ others

theorem mem_encodedChar {safe : List Char} {c d : Char} (member : d ∈ encodedChar safe c) :
    Allowed ['%'] d ∨ d ∈ safe ∧ d = c := by
  unfold encodedChar at member
  split at member
  next kept =>
    obtain rfl := List.mem_singleton.mp member
    obtain unreserved | isSafe := Bool.or_eq_true_iff.mp kept
    · exact .inl (.inl unreserved)
    · exact .inr ⟨by simpa using isSafe, rfl⟩
  next =>
    obtain ⟨b, -, inside⟩ := List.mem_flatMap.mp member
    have bound : b.toNat < 256 := b.toNat_lt
    simp only [encodedByte, List.mem_cons, List.not_mem_nil, or_false] at inside
    obtain rfl | rfl | rfl := inside
    · exact .inl (by decide)
    · exact .inl (.inl (isUnreserved_upperHexDigit _ (by omega)))
    · exact .inl (.inl (isUnreserved_upperHexDigit _ (Nat.mod_lt _ (by decide))))

/-- A safe character stands in an encoded text only if it stands in the text. -/
theorem mem_encoded {safe : List Char} {s : String} {d : Char} (member : d ∈ encoded safe s) :
    Allowed ['%'] d ∨ d ∈ safe ∧ d ∈ s.toList := by
  obtain ⟨c, inside, stands⟩ := List.mem_flatMap.mp member
  obtain allowed | ⟨isSafe, rfl⟩ := mem_encodedChar stands
  · exact .inl allowed
  · exact .inr ⟨isSafe, inside⟩

theorem allowed_encoded {safe : List Char} {s : String} {d : Char} (member : d ∈ encoded safe s) :
    Allowed ('%' :: safe) d := by
  obtain (unreserved | percent) | ⟨isSafe, -⟩ := mem_encoded member
  · exact .inl unreserved
  · exact .inr (List.mem_cons.mpr (.inl (List.mem_singleton.mp percent)))
  · exact .inr (List.mem_cons_of_mem _ isSafe)

/-! ## Pieces -/

theorem cut_append {sep : Char} {before : List Char} (free : sep ∉ before) (after : List Char) :
    cut sep (before ++ sep :: after) = (before, some after) := by
  induction before with
  | nil => simp [cut]
  | cons c before inductionHypothesis =>
    rw [List.mem_cons, not_or] at free
    rw [List.cons_append, cut, if_neg (Ne.symm free.1), inductionHypothesis free.2]

theorem cut_of_not_mem {sep : Char} {cs : List Char} (free : sep ∉ cs) :
    cut sep cs = (cs, none) := by
  induction cs with
  | nil => rfl
  | cons c cs inductionHypothesis =>
    rw [List.mem_cons, not_or] at free
    rw [cut, if_neg (Ne.symm free.1), inductionHypothesis free.2]

theorem mem_joinChars {sep c : Char} {pieces : List (List Char)}
    (member : c ∈ Text.joinChars sep pieces) : c = sep ∨ ∃ piece ∈ pieces, c ∈ piece := by
  induction pieces with
  | nil => cases member
  | cons piece pieces inductionHypothesis =>
    cases pieces with
    | nil => exact .inr ⟨piece, List.mem_singleton_self piece, member⟩
    | cons next others =>
      rw [Text.joinChars, List.mem_append, List.mem_cons] at member
      · obtain here | rfl | there := member
        · exact .inr ⟨piece, List.mem_cons_self, here⟩
        · exact .inl rfl
        · obtain separator | ⟨found, among, inside⟩ := inductionHypothesis there
          · exact .inl separator
          · exact .inr ⟨found, List.mem_cons_of_mem piece among, inside⟩
      · simp

/-- Pieces that decode are found again between separators. -/
theorem mapM_splitChars_joinChars {α β : Type} {sep : Char} {list : List α} {write : α → List Char}
    {read? : List Char → Option β} {view : α → β} (nonempty : list ≠ [])
    (free : ∀ a ∈ list, sep ∉ write a) (reads : ∀ a ∈ list, read? (write a) = some (view a)) :
    (Text.splitChars sep (Text.joinChars sep (list.map write))).mapM read? = some (list.map view) := by
  rw [Text.splitChars_joinChars (by simpa using nonempty) (by simpa using free)]
  clear nonempty free
  induction list with
  | nil => rfl
  | cons a list inductionHypothesis =>
    rw [List.map_cons, List.mapM_cons, reads a List.mem_cons_self,
      inductionHypothesis fun other member => reads other (List.mem_cons_of_mem a member)]
    rfl

/-! ## Paths and queries -/

section

variable {segments : List String} {parameters : List (String × String)}

theorem allowed_pathChars {d : Char} (member : d ∈ pathChars segments) :
    Allowed ['%', '$', '/'] d := by
  obtain rfl | ⟨piece, among, inside⟩ := mem_joinChars member
  · decide
  · obtain ⟨s, -, rfl⟩ := List.mem_map.mp among
    exact (allowed_encoded inside).imp_right (List.mem_append_left ['/'])

theorem mapM_decoded?_pathChars (nonempty : segments ≠ []) :
    (Text.splitChars '/' (pathChars segments)).mapM decoded? = some (segments.map trimSlashes) := by
  refine mapM_splitChars_joinChars nonempty (fun s _ member => ?_) fun s _ => ?_
  · exact absurd (allowed_encoded member) (by decide)
  · exact decoded?_encoded (by decide) (trimSlashes s)

theorem allowed_parameter {parameter : String × String} {d : Char}
    (member : d ∈ encoded querySafe parameter.1 ++ '=' :: encoded querySafe parameter.2) :
    Allowed ('%' :: querySafe) d := by
  rw [List.mem_append, List.mem_cons] at member
  obtain key | rfl | value := member
  · exact allowed_encoded key
  · decide
  · exact allowed_encoded value

theorem allowed_queryChars {d : Char} (member : d ∈ queryChars parameters) :
    Allowed ('%' :: querySafe ++ ['&']) d := by
  obtain rfl | ⟨piece, among, inside⟩ := mem_joinChars member
  · decide
  · obtain ⟨parameter, -, rfl⟩ := List.mem_map.mp among
    exact (allowed_parameter inside).imp_right (List.mem_append_left ['&'])

/-- A key without an equals sign is told from its value by the first one. -/
theorem parameter?_encoded {parameter : String × String} (key : '=' ∉ parameter.1.toList) :
    parameter? (encoded querySafe parameter.1 ++ '=' :: encoded querySafe parameter.2) =
      some parameter := by
  have free : '=' ∉ encoded querySafe parameter.1 := by
    intro member
    obtain allowed | ⟨-, inside⟩ := mem_encoded member
    · exact absurd allowed (by decide)
    · exact key inside
  simp [parameter?, cut_append free, decoded?_encoded (show '%' ∉ querySafe by decide)]

theorem parameters?_queryChars (nonempty : parameters ≠ [])
    (keys : ∀ parameter ∈ parameters, '=' ∉ parameter.1.toList) :
    parameters? (queryChars parameters) = some parameters := by
  have free : ∀ parameter ∈ parameters, '&' ∉ encoded querySafe parameter.1 ++
      '=' :: encoded querySafe parameter.2 :=
    fun _ _ member => absurd (allowed_parameter member) (by decide)
  have reads : ∀ parameter ∈ parameters, parameter? (encoded querySafe parameter.1 ++
      '=' :: encoded querySafe parameter.2) = some (id parameter) :=
    fun parameter member => parameter?_encoded (keys parameter member)
  have split := mapM_splitChars_joinChars nonempty free reads
  rw [List.map_id] at split
  exact split

/-! ## Whole addresses -/

/-- The name of a version of the directory. -/
def versionName (beta : Bool) : String := if beta then "beta" else "v1.0"

def queryPart (parameters : List (String × String)) : List Char :=
  if parameters.isEmpty then [] else '?' :: queryChars parameters

theorem toList_url (segments : List String) (parameters : List (String × String)) (beta : Bool) :
    (url segments parameters beta).toList = (host ++ "/").toList ++
      ((versionName beta).toList ++ '/' :: (pathChars segments ++ queryPart parameters)) := by
  unfold url queryPart versionName
  cases parameters <;> cases beta <;> simp

theorem dropStart?_append (start : String) (rest : List Char) :
    Text.dropStart? start (String.ofList (start.toList ++ rest)) = some (String.ofList rest) := by
  have starts : Text.startsWith start (String.ofList (start.toList ++ rest)) = true := by
    rw [Text.startsWith, String.toList_ofList, List.isPrefixOf_iff_prefix]
    exact List.prefix_append _ _
  rw [Text.dropStart?, if_pos starts, String.toList_ofList, List.drop_left]

/-- The path ends at the question mark, if there is one. -/
theorem cut_queryPart (segments : List String) (parameters : List (String × String)) :
    cut '?' (pathChars segments ++ queryPart parameters) =
      (pathChars segments, if parameters.isEmpty then none else some (queryChars parameters)) := by
  have free : '?' ∉ pathChars segments :=
    fun member => absurd (allowed_pathChars member) (by decide)
  unfold queryPart
  split
  next => rw [List.append_nil, cut_of_not_mem free]
  next => exact cut_append free _

theorem query?_queryChars (keys : ∀ parameter ∈ parameters, '=' ∉ parameter.1.toList) :
    query? (if parameters.isEmpty then none else some (queryChars parameters)) =
      some (if parameters.isEmpty then none else some parameters) := by
  cases parameters with
  | nil => rfl
  | cons parameter others =>
    have read := parameters?_queryChars (List.cons_ne_nil parameter others) keys
    simp [query?, read]

/-- The characters of addresses that are not unreserved, apart from the question mark. -/
def punctuation : List Char := ':' :: '/' :: '&' :: '%' :: querySafe

theorem allowed_url {beta : Bool} {d : Char} (member : d ∈ (url segments parameters beta).toList) :
    Allowed punctuation d ∨ parameters ≠ [] ∧ d = '?' := by
  have atHost : ((host ++ "/").toList.all fun c => decide (Allowed punctuation c)) = true := by
    decide
  have inVersion :
      ((versionName beta).toList.all fun c => decide (Allowed punctuation c)) = true := by
    cases beta <;> decide
  have inPath : ['%', '$', '/'] ⊆ punctuation := by simp [punctuation, querySafe]
  have inQuery : '%' :: querySafe ++ ['&'] ⊆ punctuation := by simp [punctuation, querySafe]
  rw [toList_url, List.mem_append, List.mem_append, List.mem_cons, List.mem_append] at member
  obtain here | here | rfl | here | here := member
  · exact .inl (of_decide_eq_true (List.all_eq_true.mp atHost d here))
  · exact .inl (of_decide_eq_true (List.all_eq_true.mp inVersion d here))
  · exact .inl (by decide)
  · exact .inl ((allowed_pathChars here).imp_right fun member => inPath member)
  · unfold queryPart at here
    split at here
    next => cases here
    next given =>
      obtain rfl | here := List.mem_cons.mp here
      · exact .inr ⟨by simpa using given, rfl⟩
      · exact .inl ((allowed_queryChars here).imp_right fun member => inQuery member)

theorem mem_questionMark_url_iff {beta : Bool} :
    '?' ∈ (url segments parameters beta).toList ↔ parameters ≠ [] := by
  constructor
  · intro member
    obtain allowed | ⟨given, -⟩ := allowed_url member
    · exact absurd allowed (by decide)
    · exact given
  · intro given
    rw [toList_url]
    simp [queryPart, given]

theorem reads_url (nonempty : segments ≠ [])
    (keys : ∀ parameter ∈ parameters, '=' ∉ parameter.1.toList) (beta : Bool) :
    Address.read? (url segments parameters beta) = some {
      version := versionName beta
      path := segments.map trimSlashes
      query := if parameters.isEmpty then none else some parameters } := by
  have version : '/' ∉ (versionName beta).toList := by cases beta <;> decide
  rw [← String.ofList_toList (s := url segments parameters beta), toList_url, Address.read?,
    dropStart?_append]
  simp only [Option.bind_eq_bind, Option.bind_some, String.toList_ofList, cut_append version,
    cut_queryPart, mapM_decoded?_pathChars nonempty, query?_queryChars keys, String.ofList_toList,
    Option.pure_def]

/-- An address is read as its version, the segments without the slashes at their ends, and the
parameters in their order.  There is a question mark where there are parameters, and nowhere a
number sign. -/
theorem read?_url (nonempty : segments ≠ [])
    (keys : ∀ parameter ∈ parameters, '=' ∉ parameter.1.toList) (beta : Bool) :
    Address.read? (url segments parameters beta) = some {
        version := versionName beta
        path := segments.map trimSlashes
        query := if parameters.isEmpty then none else some parameters } ∧
      (∀ s ∈ segments, Trims s (trimSlashes s)) ∧
      ('?' ∈ (url segments parameters beta).toList ↔ parameters ≠ []) ∧
      '#' ∉ (url segments parameters beta).toList := by
  refine ⟨reads_url nonempty keys beta, fun s _ => trims_trimSlashes s, mem_questionMark_url_iff,
    fun member => ?_⟩
  obtain allowed | ⟨-, same⟩ := allowed_url member
  · exact absurd allowed (by decide)
  · exact absurd same (by decide)

end

/-- An identifier and a filter with punctuation in them. -/
theorem read?_url_punctuated :
    let segments := ["/groups/", "a/b?c#é%2F", "//", "$ref"]
    let parameters := [("$filter", "name eq 'ü=1&x?y#'"), ("", "")]
    (∀ parameter ∈ parameters, '=' ∉ parameter.1.toList) ∧
      Address.read? (url segments parameters true) = some {
        version := "beta"
        path := ["groups", "a/b?c#é%2F", "", "$ref"]
        query := some parameters } ∧
      '#' ∉ (url segments parameters true).toList := by
  intro segments parameters
  have keys : ∀ parameter ∈ parameters, '=' ∉ parameter.1.toList := by decide
  have trimmed : segments.map trimSlashes = ["groups", "a/b?c#é%2F", "", "$ref"] := by decide
  obtain ⟨reads, -, -, plain⟩ := read?_url (List.cons_ne_nil "/groups/" _) keys true
  rw [trimmed] at reads
  exact ⟨keys, reads, plain⟩

end AccessSync.Directory
