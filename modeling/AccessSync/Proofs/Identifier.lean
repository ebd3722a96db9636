import AccessSync.Identifier

/-!
# Identifiers read back

What is put together with separators comes apart again at the same places, as long as no part has
the separator in it.  If a part has it, there are more pieces than parts, so that an identifier with
a fixed number of parts is refused.
-/

namespace AccessSync

namespace Text

variable {sep : Char} {piece : List Char}

theorem splitChars_of_not_mem (free : sep ∉ piece) : splitChars sep piece = [piece] := by
  induction piece with
  | nil => rfl
  | cons c rest inductionHypothesis =>
    rw [List.mem_cons, not_or] at free
    rw [splitChars, if_neg (Ne.symm free.1), inductionHypothesis free.2]

theorem splitChars_append (free : sep ∉ piece) (rest : List Char) :
    splitChars sep (piece ++ sep :: rest) = piece :: splitChars sep rest := by
  induction piece with
  | nil => rw [List.nil_append, splitChars, if_pos rfl]
  | cons c piece inductionHypothesis =>
    rw [List.mem_cons, not_or] at free
    rw [List.cons_append, splitChars, if_neg (Ne.symm free.1), inductionHypothesis free.2]

theorem splitChars_joinChars {pieces : List (List Char)} (nonempty : pieces ≠ [])
    (free : ∀ piece ∈ pieces, sep ∉ piece) : splitChars sep (joinChars sep pieces) = pieces := by
  induction pieces with
  | nil => exact absurd rfl nonempty
  | cons piece pieces inductionHypothesis =>
    have here := free piece List.mem_cons_self
    cases pieces with
    | nil => exact splitChars_of_not_mem here
    | cons next others =>
      rw [joinChars, splitChars_append here,
        inductionHypothesis (List.cons_ne_nil next others) fun other member =>
          free other (List.mem_cons_of_mem piece member)]
      exact List.cons_ne_nil next others

theorem splitChars_ne_nil (sep : Char) (cs : List Char) : splitChars sep cs ≠ [] := by
  cases cs with
  | nil => exact List.cons_ne_nil _ _
  | cons c rest =>
    rw [splitChars]
    split
    · exact List.cons_ne_nil _ _
    · split <;> exact List.cons_ne_nil _ _

/-- The pieces with separators between them are what was split. -/
theorem joinChars_splitChars (sep : Char) (cs : List Char) :
    joinChars sep (splitChars sep cs) = cs := by
  induction cs with
  | nil => rfl
  | cons c rest inductionHypothesis =>
    obtain ⟨piece, pieces, split⟩ := List.exists_cons_of_ne_nil (splitChars_ne_nil sep rest)
    rw [split] at inductionHypothesis
    by_cases here : c = sep
    · rw [splitChars, if_pos here, split, joinChars, inductionHypothesis, here, List.nil_append]
      exact List.cons_ne_nil _ _
    · rw [splitChars, if_neg here, split]
      -- The character joins the first piece, which may be the only one.
      cases pieces <;> simpa [joinChars] using inductionHypothesis

theorem joinWith_splitOn (sep : Char) (s : String) : joinWith sep (splitOn sep s) = s := by
  have characters : ((splitChars sep s.toList).map String.ofList).map String.toList =
      splitChars sep s.toList := by simp
  rw [joinWith, splitOn, characters, joinChars_splitChars, String.ofList_toList]

/-- No piece has the separator in it. -/
theorem not_mem_of_mem_splitChars {cs : List Char} (member : piece ∈ splitChars sep cs) :
    sep ∉ piece := by
  induction cs generalizing piece with
  | nil => simp_all [splitChars]
  | cons c rest inductionHypothesis =>
    obtain ⟨first, pieces, split⟩ := List.exists_cons_of_ne_nil (splitChars_ne_nil sep rest)
    by_cases here : c = sep
    · rw [splitChars, if_pos here, List.mem_cons] at member
      obtain rfl | later := member
      · exact List.not_mem_nil
      · exact inductionHypothesis later
    · rw [splitChars, if_neg here, split] at member
      obtain rfl | later := List.mem_cons.mp member
      · rw [List.mem_cons, not_or]
        exact ⟨Ne.symm here, inductionHypothesis (split ▸ List.mem_cons_self)⟩
      · exact inductionHypothesis (split ▸ List.mem_cons_of_mem first later)

/-- Each separator makes one piece more. -/
theorem length_splitChars (sep : Char) (cs : List Char) :
    (splitChars sep cs).length = cs.count sep + 1 := by
  induction cs with
  | nil => rfl
  | cons c rest inductionHypothesis =>
    obtain ⟨piece, pieces, split⟩ := List.exists_cons_of_ne_nil (splitChars_ne_nil sep rest)
    by_cases here : c = sep
    · simp [splitChars, here, inductionHypothesis]
    · simpa [splitChars, here, split] using inductionHypothesis

theorem count_joinChars (sep : Char) {pieces : List (List Char)} (nonempty : pieces ≠ []) :
    (joinChars sep pieces).count sep + 1 = pieces.flatten.count sep + pieces.length := by
  induction pieces with
  | nil => exact absurd rfl nonempty
  | cons piece pieces inductionHypothesis =>
    cases pieces with
    | nil => simp [joinChars]
    | cons next others =>
      have rest := inductionHypothesis (List.cons_ne_nil next others)
      simp only [joinChars, List.count_append, List.count_cons_self, List.flatten_cons,
        List.length_cons] at rest ⊢
      omega

/-- If one of the texts has the separator in it, they come apart in more pieces than they were. -/
theorem length_lt_splitOn_joinWith {pieces : List String}
    (held : ∃ piece ∈ pieces, sep ∈ piece.toList) :
    pieces.length < (splitOn sep (joinWith sep pieces)).length := by
  obtain ⟨piece, member, here⟩ := held
  have nonempty : pieces.map String.toList ≠ [] := by
    simpa using List.ne_nil_of_mem member
  have counted : 0 < (pieces.map String.toList).flatten.count sep :=
    List.count_pos_iff.mpr (List.mem_flatten.mpr ⟨_, List.mem_map_of_mem member, here⟩)
  have pieced := count_joinChars sep nonempty
  rw [splitOn, List.length_map, joinWith, String.toList_ofList, length_splitChars, pieced,
    List.length_map]
  omega

theorem splitLastChars?_of_not_mem (free : sep ∉ piece) : splitLastChars? sep piece = none := by
  induction piece with
  | nil => rfl
  | cons c rest inductionHypothesis =>
    rw [List.mem_cons, not_or] at free
    simp [splitLastChars?, inductionHypothesis free.2, Ne.symm free.1]

theorem splitLastChars?_append (before : List Char) (free : sep ∉ piece) :
    splitLastChars? sep (before ++ sep :: piece) = some (before, piece) := by
  induction before with
  | nil => simp [splitLastChars?, splitLastChars?_of_not_mem free]
  | cons c before inductionHypothesis => simp [splitLastChars?, inductionHypothesis]

/-- What follows the last separator is found again, whatever stands before it. -/
theorem splitLast?_append {after : String} (before : String) (free : sep ∉ after.toList) :
    splitLast? sep (before ++ String.singleton sep ++ after) = some (before, after) := by
  have characters : (before ++ String.singleton sep ++ after).toList =
      before.toList ++ sep :: after.toList := by simp
  rw [splitLast?, characters, splitLastChars?_append _ free]
  simp

/-- Texts without the separator are found again between the separators. -/
theorem splitOn_joinWith {pieces : List String} (nonempty : pieces ≠ [])
    (free : ∀ piece ∈ pieces, sep ∉ piece.toList) : splitOn sep (joinWith sep pieces) = pieces := by
  rw [splitOn, joinWith, String.toList_ofList, splitChars_joinChars (by simpa using nonempty)
    (by simpa using free), List.map_map]
  simp

end Text

/-- A part of an identifier: not empty, and without a colon in it. -/
def IsPart (text : String) : Prop := text ≠ "" ∧ ':' ∉ text.toList

/-- The identifier of a role within a subscription stands for the two. -/
theorem splitRoleResourceId_roleResourceId {role subscription : String} (first : IsPart role)
    (second : IsPart subscription) :
    splitRoleResourceId (roleResourceId role subscription) = .ok (role, subscription) := by
  have joined : roleResourceId role subscription = Text.joinWith ':' [role, subscription] := by
    refine String.toList_inj.mp ?_
    simp [roleResourceId, Text.joinWith, Text.joinChars]
  have split : Text.splitOn ':' (roleResourceId role subscription) = [role, subscription] := by
    rw [joined]
    refine Text.splitOn_joinWith (List.cons_ne_nil _ _) ?_
    simp [first.2, second.2]
  simp [splitRoleResourceId, split, first.1, second.1]

/-- The identifier of a resource group stands for its name, which may have colons in it, and its
subscription. -/
theorem splitResourceGroupId_resourceGroupId {name subscription : String} (named : name ≠ "")
    (second : IsPart subscription) :
    splitResourceGroupId (resourceGroupId name subscription) = .ok (name, subscription) := by
  have split : Text.splitLast? ':' (resourceGroupId name subscription) =
      some (name, subscription) := Text.splitLast?_append name second.2
  simp [splitResourceGroupId, split, named, second.1]

namespace ResourcePath

variable {p : ResourcePath} {sep : Char}

def parts (p : ResourcePath) : List String :=
  [p.subscription, p.resourceGroup, p.provider, p.type, p.name]

/-- The character is in none of the parts. -/
def Without (sep : Char) (p : ResourcePath) : Prop := ∀ part ∈ p.parts, sep ∉ part.toList

/-- The path in its pieces, with the fixed pieces as they are written. -/
def pieces (p : ResourcePath) (subscriptions groups providers : String) : List String :=
  ["", subscriptions, p.subscription, groups, p.resourceGroup, providers, p.provider, p.type,
    p.name]

theorem parts_subset_pieces (subscriptions groups providers : String) :
    p.parts ⊆ p.pieces subscriptions groups providers := by
  simp [parts, pieces]

/-! ### Five parts -/

theorem ofConnectorId_eq_ok_iff {id : String} :
    ofConnectorId id = .ok p ↔ Text.splitOn ':' id = p.parts := by
  unfold ofConnectorId
  split
  next subscription group provider type name split =>
    rw [split, Except.ok.injEq]
    cases p
    simp [parts]
  next other => exact ⟨nofun, fun same => absurd same (other _ _ _ _ _)⟩

/-- What is read from five parts has no colon in them. -/
theorem without_of_ofConnectorId {id : String} (read : ofConnectorId id = .ok p) :
    p.Without ':' := by
  intro part member
  rw [← ofConnectorId_eq_ok_iff.mp read, Text.splitOn, List.mem_map] at member
  obtain ⟨piece, split, rfl⟩ := member
  rw [String.toList_ofList]
  exact Text.not_mem_of_mem_splitChars split

theorem ofConnectorId_of_length {id : String} (length : (Text.splitOn ':' id).length ≠ 5) :
    ofConnectorId id = .error (.badIdentifier .connectorResource id) := by
  unfold ofConnectorId
  split
  next split => simp [split] at length
  next => rfl

theorem connectorId_eq_joinWith (p : ResourcePath) :
    p.connectorId = Text.joinWith ':' p.parts := rfl

theorem ofConnectorId_connectorId (free : p.Without ':') :
    ofConnectorId p.connectorId = .ok p := by
  rw [ofConnectorId_eq_ok_iff, connectorId_eq_joinWith]
  exact Text.splitOn_joinWith (List.cons_ne_nil _ _) free

theorem ofConnectorId_connectorId_of_colon (held : ¬ p.Without ':') :
    ofConnectorId p.connectorId = .error (.badIdentifier .connectorResource p.connectorId) := by
  have held : ∃ part ∈ p.parts, ':' ∈ part.toList := by simpa [Without] using held
  have more := Text.length_lt_splitOn_joinWith held
  rw [← connectorId_eq_joinWith] at more
  exact ofConnectorId_of_length (Nat.ne_of_gt more)

/-! ### Paths -/

theorem azureId_eq_joinWith (p : ResourcePath) :
    p.azureId = Text.joinWith '/' (p.pieces "subscriptions" "resourceGroups" "providers") := by
  have first : "/subscriptions/".toList = '/' :: ("subscriptions".toList ++ ['/']) := by decide
  have second : "/resourceGroups/".toList = '/' :: ("resourceGroups".toList ++ ['/']) := by decide
  have third : "/providers/".toList = '/' :: ("providers".toList ++ ['/']) := by decide
  have slash : "/".toList = ['/'] := by decide
  refine String.toList_inj.mp ?_
  delta azureId
  simp only [pieces, Text.joinWith, Text.joinChars, List.map_cons, List.map_nil,
    String.toList_append, String.toList_ofList, first, second, third, slash, String.toList_empty,
    List.nil_append, List.cons_append, List.append_assoc]

/-- The texts differ in the case of letters at most. -/
def SameLetters (text other : String) : Prop := Text.lower text = Text.lower other

/-- A path is read if it has the nine pieces, and the three fixed ones in any letter case. -/
theorem ofAzureId_eq_ok_iff {path : String} :
    ofAzureId path = .ok p ↔ ∃ subscriptions groups providers,
      SameLetters subscriptions "subscriptions" ∧ SameLetters groups "resourceGroups" ∧
        SameLetters providers "providers" ∧
        Text.splitOn '/' path = p.pieces subscriptions groups providers := by
  have fixed : Text.lower "subscriptions" = "subscriptions" ∧
      Text.lower "resourceGroups" = "resourcegroups" ∧ Text.lower "providers" = "providers" := by
    decide
  simp only [SameLetters, fixed]
  unfold ofAzureId
  split
  next root subscriptions subscription groups group providers provider type name split =>
    rw [split]
    cases p
    simp only [pieces, List.cons.injEq, and_true, Bool.and_eq_true, decide_eq_true_eq]
    split
    next fixed => grind
    next => grind
  next other =>
    refine ⟨nofun, ?_⟩
    rintro ⟨_, _, _, -, -, -, split⟩
    exact absurd split (other _ _ _ _ _ _ _ _ _)

theorem ofAzureId_of_length {path : String} (length : (Text.splitOn '/' path).length ≠ 9) :
    ofAzureId path = .error (.badIdentifier .azureResource path) := by
  unfold ofAzureId
  split
  next split => simp [split] at length
  next => rfl

theorem ofAzureId_azureId (free : p.Without '/') : ofAzureId p.azureId = .ok p := by
  refine ofAzureId_eq_ok_iff.mpr ⟨_, _, _, rfl, rfl, rfl, ?_⟩
  rw [azureId_eq_joinWith]
  refine Text.splitOn_joinWith (List.cons_ne_nil _ _) ?_
  simp only [Without, parts, pieces, List.forall_mem_cons] at free ⊢
  obtain ⟨subscription, group, provider, type, name, none⟩ := free
  exact ⟨by decide, by decide, subscription, by decide, group, by decide, provider, type, name,
    none⟩

theorem ofAzureId_azureId_of_slash (held : ¬ p.Without '/') :
    ofAzureId p.azureId = .error (.badIdentifier .azureResource p.azureId) := by
  have held : ∃ part ∈ p.parts, '/' ∈ part.toList := by simpa [Without] using held
  obtain ⟨part, member, slash⟩ := held
  have more := Text.length_lt_splitOn_joinWith
    ⟨part, p.parts_subset_pieces "subscriptions" "resourceGroups" "providers" member, slash⟩
  rw [← azureId_eq_joinWith] at more
  exact ofAzureId_of_length (Nat.ne_of_gt more)

/-- What is read from a path is written as the path again, but for the letter case of the fixed
pieces. -/
theorem exists_pieces_of_ofAzureId {path : String} (read : ofAzureId path = .ok p) :
    ∃ subscriptions groups providers,
      SameLetters subscriptions "subscriptions" ∧ SameLetters groups "resourceGroups" ∧
        SameLetters providers "providers" ∧
        path = Text.joinWith '/' (p.pieces subscriptions groups providers) := by
  obtain ⟨subscriptions, groups, providers, first, second, third, split⟩ :=
    ofAzureId_eq_ok_iff.mp read
  refine ⟨subscriptions, groups, providers, first, second, third, ?_⟩
  rw [← split, Text.joinWith_splitOn]

end ResourcePath

/-- The identifier of a container stands for the storage account and the name of the container. -/
theorem splitContainerId_containerId {account : ResourcePath} {container : String}
    (free : account.Without ':') (named : IsPart container) :
    splitContainerId (containerId account container) = .ok (account, container) := by
  have split : Text.splitLast? ':' (containerId account container) =
      some (account.connectorId, container) :=
    Text.splitLast?_append account.connectorId named.2
  simp only [splitContainerId, split, ResourcePath.ofConnectorId_connectorId free]
  simp [named.1, Except.map]

end AccessSync
