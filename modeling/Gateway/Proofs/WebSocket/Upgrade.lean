import Gateway.Proofs.Http.Lines
import Gateway.Proofs.WebSocket.Base64
import Gateway.Proofs.WebSocket.Sha1
import Gateway.WebSocket.Upgrade
import Mathlib.Logic.Relation

namespace Gateway.WebSocket.Upgrade

open Http (Headers isPlainByte lowerByte plainText)
open Http.Headers (lines lines_append lines_cons ofRaw? readLine text?_eq_readLine)
open Text.Ascii (lower lower_beq sameText)

/-- The refusal of a request whose `connection` header does not ask for an upgrade. -/
def noConnection : Error := .notWebSocketRequest "missing Connection: Upgrade header"

def hasWord (connection : Option String) : Bool := connection.any (occursIn "upgrade".toList ·.toList)

def verdict (connection upgrade key version : Option String) : Except Error String :=
  if !hasWord connection then .error noConnection
  else if upgrade ≠ some "websocket" then .error (.notWebSocketRequest "missing Upgrade: websocket header")
  else
    match key with
    | none | some "" => .error (.notWebSocketRequest "missing Sec-WebSocket-Key header")
    | some key =>
      if version = some "13" then .ok (acceptKey key)
      else .error (.notWebSocketRequest "missing or invalid Sec-WebSocket-Version header (must be 13)")

theorem check_eq_verdict (headers : Headers) :
    check headers = verdict ((headers.text? "connection").map lower) ((headers.text? "upgrade").map lower)
      (headers.text? "sec-websocket-key") (headers.text? "sec-websocket-version") := by
  unfold check verdict
  cases headers.text? "connection" with
  | none => rfl
  | some connection =>
    cases headers.text? "upgrade" with
    | none => rfl
    | some upgrade =>
      have websocket : sameText upgrade "websocket" = (lower upgrade == "websocket") := (lower_beq ..).symm
      simp only [websocket, hasWord, Option.map_some, Option.any_some, ne_eq, Option.some.injEq, Bool.not_eq_true',
        beq_eq_false_iff_ne]
      rfl

def caseless : List String := ["connection", "upgrade"]

def handshake : List String := caseless ++ ["sec-websocket-key", "sec-websocket-version"]

/-- Changes of a request that the handshake does not see. -/
inductive Restated : List (String × Bytes) → List (String × Bytes) → Prop where
  | name (before after : List (String × Bytes)) {name other : String} (value : Bytes)
      (same : sameText name other = true) :
      Restated (before ++ (name, value) :: after) (before ++ (other, value) :: after)
  | value (before after : List (String × Bytes)) {name : String} {value other : Bytes} (named : lower name ∈ caseless)
      (same : value.map lowerByte = other.map lowerByte) :
      Restated (before ++ (name, value) :: after) (before ++ (name, other) :: after)
  | others {raw other : List (String × Bytes)}
      (same : raw.filter (fun field => lower field.1 ∈ handshake) =
        other.filter fun field => lower field.1 ∈ handshake) : Restated raw other

def reads (raw : List (String × Bytes)) (name : String) : List Bytes :=
  (lines raw name).map (if name ∈ caseless then List.map lowerByte else id)

theorem lines_filter (raw : List (String × Bytes)) {name : String} (looked : name ∈ handshake) :
    lines (raw.filter fun field => lower field.1 ∈ handshake) name = lines raw name := by
  rw [lines, List.filter_filter, lines]
  congr 2
  funext field
  by_cases named : lower field.1 = name
  · simp [named, looked]
  · simp [named]

theorem Restated.reads_eq {raw other : List (String × Bytes)} (step : Restated raw other) {name : String}
    (looked : name ∈ handshake) : reads raw name = reads other name := by
  unfold reads
  cases step with
  | name before after value same =>
    rw [← lower_beq, beq_iff_eq] at same
    rw [lines_append, lines_cons, same, ← lines_cons (_, value), ← lines_append]
  | @value before after sent value other named same =>
    simp only [lines_append, lines_cons, List.map_append]
    by_cases own : lower sent = name
    · subst own
      rw [if_pos named, if_pos rfl, if_pos rfl, List.map_singleton, List.map_singleton, same]
    · rw [if_neg own, if_neg own]
  | others same => rw [← lines_filter raw looked, same, lines_filter other looked]

theorem reads_of_restated {raw other : List (String × Bytes)} (restated : Relation.ReflTransGen Restated raw other)
    {name : String} (looked : name ∈ handshake) : reads raw name = reads other name := by
  induction restated with
  | refl => rfl
  | tail _ step ih => exact ih.trans (step.reads_eq looked)

theorem readLine_lower (first : Option Bytes) :
    (readLine first).map lower = readLine (first.map (·.map lowerByte)) := by
  cases first with
  | none => rfl
  | some value =>
    show Option.map lower (if value.all isPlainByte then some (plainText value) else none) =
      if (value.map lowerByte).all isPlainByte then some (plainText (value.map lowerByte)) else none
    rw [Http.all_isPlainByte_lower, ← Http.lower_plainText]
    split <;> rfl

/-- The verdict on a request, and the answer to its key, do not change with what the handshake does not see. -/
theorem check_of_restated {raw other : List (String × Bytes)} (restated : Relation.ReflTransGen Restated raw other)
    {headers headers' : Headers} (read : ofRaw? raw = some headers) (read' : ofRaw? other = some headers') :
    check headers = check headers' := by
  have first {name : String} (looked : name ∈ handshake) := congrArg List.head? (reads_of_restated restated looked)
  simp only [reads, List.head?_map] at first
  have folded (name : String) (known : name ∈ caseless) :
      (headers.text? name).map lower = (headers'.text? name).map lower := by
    have same := first (List.mem_append_left _ known)
    rw [if_pos known] at same
    rw [text?_eq_readLine read, text?_eq_readLine read', readLine_lower, readLine_lower, same]
  have exactly (name : String) (looked : name ∈ handshake) (other : name ∉ caseless) :
      headers.text? name = headers'.text? name := by
    have same := first looked
    rw [if_neg other, Option.map_id_apply, Option.map_id_apply] at same
    rw [text?_eq_readLine read, text?_eq_readLine read', same]
  rw [check_eq_verdict, check_eq_verdict, folded "connection" (by decide), folded "upgrade" (by decide),
    exactly "sec-websocket-key" (by decide) (by decide), exactly "sec-websocket-version" (by decide) (by decide)]

/-- The text that answers a key: the digest of the key and what the server appends to it, as text. -/
def Accepts (key : Bytes) (accept : List Char) : Prop :=
  ∃ digest, Sha1.Digests (key ++ Text.bytes guid) digest ∧ Base64.Writes digest accept

theorem accepts_acceptKey (key : String) : Accepts (Text.bytes key) (acceptKey key).toList := by
  rw [acceptKey, String.toList_ofList]
  exact ⟨_, Sha1.digests_digest _, Base64.writes_encode _⟩

theorem Accepts.legal {key : Bytes} {accept : List Char} (accepts : Accepts key accept) :
    accept.length = 28 ∧ Text.bytes (String.ofList accept) = accept.map (fun c => .ofNat c.toNat) ∧
      (Text.bytes (String.ofList accept)).all Http.isValueByte = true := by
  obtain ⟨digest, digests, writes⟩ := accepts
  obtain rfl := (Sha1.eq_digest_iff _ _).mpr digests
  obtain rfl := (Base64.eq_encode_iff _ _).mpr writes
  have letters : (Base64.alphabet ++ ['=']).all
      (fun c => decide (c.toNat < 0x80) && Http.isValueByte (.ofNat c.toNat)) = true := by decide
  have letter (c : Char) (within : c ∈ Base64.encode (Sha1.digest (key ++ Text.bytes guid))) :
      c.toNat < 0x80 ∧ Http.isValueByte (.ofNat c.toNat) = true := by
    have listed : c ∈ Base64.alphabet ++ ['='] :=
      List.mem_append.mpr ((Base64.mem_encode within).imp_right List.mem_singleton.mpr)
    simpa only [Bool.and_eq_true, decide_eq_true_eq] using List.all_eq_true.mp letters c listed
  have bytes := Http.bytes_ascii fun c within => (letter c within).1
  refine ⟨?_, bytes, ?_⟩
  · rw [Base64.length_encode, Sha1.length_digest]
  · rw [bytes, List.all_map, List.all_eq_true]
    exact fun c within => (letter c within).2

theorem verdict_eq_ok_iff (connection upgrade key version : Option String) (accept : String) :
    verdict connection upgrade key version = .ok accept ↔
      hasWord connection = true ∧ upgrade = some "websocket" ∧
        (∃ text, key = some text ∧ text ≠ "" ∧ accept = acceptKey text) ∧ version = some "13" := by
  unfold verdict
  by_cases asks : hasWord connection = true
  · by_cases websocket : upgrade = some "websocket"
    · rw [if_neg (by simp [asks]), if_neg (not_not.mpr websocket)]
      split
      · simp
      · simp
      · rename_i text filled
        by_cases thirteen : version = some "13"
        · rw [if_pos thirteen, Except.ok.injEq]
          constructor
          · rintro rfl
            exact ⟨asks, websocket, ⟨text, rfl, filled, rfl⟩, thirteen⟩
          · rintro ⟨-, -, ⟨_, same, -, rfl⟩, -⟩
            cases same
            rfl
        · rw [if_neg thirteen]
          simp [thirteen]
    · rw [if_neg (by simp [asks]), if_pos websocket]
      simp [websocket]
  · rw [if_pos (by simpa using asks)]
    simp [asks]

theorem check_ok {raw : List (String × Bytes)} {headers : Headers} (read : ofRaw? raw = some headers) {accept : String}
    (accepted : check headers = .ok accept) : ∃ key, (lines raw "sec-websocket-key").head? = some key ∧ key ≠ [] ∧
      Accepts key accept.toList := by
  rw [check_eq_verdict, verdict_eq_ok_iff] at accepted
  obtain ⟨-, -, ⟨text, found, filled, rfl⟩, -⟩ := accepted
  rw [text?_eq_readLine read, Http.Headers.readLine_eq_some_iff] at found
  obtain ⟨key, isFirst, plain, rfl⟩ := found
  refine ⟨key, isFirst, ?_, ?_⟩
  · rintro rfl
    exact filled rfl
  · have accepts := accepts_acceptKey (plainText key)
    rw [Http.bytes_plainText plain] at accepts
    exact accepts

theorem occursIn_iff (word text : List Char) : occursIn word text = true ↔ word <:+: text := by
  induction text with
  | nil => rw [occursIn, List.isEmpty_iff, List.infix_nil]
  | cons c rest ih => rw [occursIn, Bool.or_eq_true, List.isPrefixOf_iff_prefix, ih, List.infix_cons_iff]

theorem charOfByte_injective : Function.Injective fun b : UInt8 => Char.ofNat b.toNat := by
  intro b c same
  have numbers := congrArg Char.toNat same
  rw [Http.toNat_charOfByte, Http.toNat_charOfByte] at numbers
  exact UInt8.toNat_inj.mp numbers

theorem infix_plainText (word value : Bytes) :
    (plainText word).toList <:+: (plainText value).toList ↔ word <:+: value := by
  rw [plainText, plainText, String.toList_ofList, String.toList_ofList]
  constructor
  · intro within
    obtain ⟨part, inside, same⟩ := (List.infix_map_iff ..).mp within
    exact List.map_injective_iff.mpr charOfByte_injective same ▸ inside
  · intro inside
    exact inside.map _

theorem prefix_before {α : Type} {word after : List α} {separator : α} (whole : separator ∉ word) (before : List α)
    (front : word <+: before ++ separator :: after) : word <+: before := by
  have through : before ++ [separator] <+: before ++ separator :: after := by simp
  rcases List.prefix_or_prefix_of_prefix front through with short | long
  · rcases List.prefix_concat_iff.mp short with rfl | inside
    · exact absurd (List.mem_append_right _ List.mem_cons_self) whole
    · exact inside
  · exact absurd (long.subset (List.mem_append_right _ List.mem_cons_self)) whole

theorem infix_append_cons {α : Type} {word : List α} {separator : α} (filled : word ≠ []) (whole : separator ∉ word)
    (before after : List α) : word <:+: before ++ separator :: after ↔ word <:+: before ∨ word <:+: after := by
  constructor
  · intro within
    induction before with
    | nil =>
      rcases List.infix_cons_iff.mp within with front | later
      · exact absurd (List.prefix_nil.mp (prefix_before whole [] front)) filled
      · exact .inr later
    | cons c before ih =>
      rcases List.infix_cons_iff.mp within with front | later
      · exact .inl (prefix_before whole (c :: before) front).isInfix
      · exact (ih later).imp_left fun inside => inside.trans (List.suffix_cons c before).isInfix
  · rintro (inside | inside)
    · exact inside.trans (List.prefix_append before _).isInfix
    · exact inside.trans ((List.suffix_cons separator after).trans (List.suffix_append before _)).isInfix

theorem infix_intercalate {α : Type} {word : List α} {separator : α} (filled : word ≠ []) (whole : separator ∉ word)
    (parts : List (List α)) : word <:+: [separator].intercalate parts ↔ ∃ part ∈ parts, word <:+: part := by
  induction parts with
  | nil => simp [filled]
  | cons part parts ih =>
    cases parts with
    | nil => simp
    | cons other parts =>
      rw [List.intercalate_cons_cons, List.append_assoc, List.singleton_append, infix_append_cons filled whole, ih]
      exact (List.exists_mem_cons_iff ..).symm

def word : Bytes := Text.bytes "upgrade"

def members (line : Bytes) : List Bytes := (line.map lowerByte).splitOn 44

def IsWord (member : Bytes) : Prop :=
  ∃ before after, (∀ b ∈ before ++ after, b = 9 ∨ b = 32) ∧ member = before ++ word ++ after

def Asks (lines : List Bytes) : Prop := ∃ member ∈ lines.flatMap members, IsWord member

theorem infix_members (line : Bytes) : word <:+: line.map lowerByte ↔ ∃ member ∈ members line, word <:+: member := by
  have whole : 44 ∉ word := by decide
  rw [members, ← infix_intercalate (by decide) whole, List.intercalate_splitOn]

theorem IsWord.infix {member : Bytes} (isWord : IsWord member) : word <:+: member := by
  obtain ⟨before, after, -, rfl⟩ := isWord
  exact List.infix_append before word after

theorem IsWord.mem {member : Bytes} (isWord : IsWord member) {b : UInt8} (within : b ∈ member) :
    b ∈ word ∨ b = 9 ∨ b = 32 := by
  obtain ⟨before, after, blank, rfl⟩ := isWord
  simp only [List.mem_append] at within blank
  rcases within with (first | inside) | last
  · exact .inr (blank b (.inl first))
  · exact .inl inside
  · exact .inr (blank b (.inr last))

theorem check_noConnection (headers : Headers) : check headers = .error noConnection ↔
    hasWord ((headers.text? "connection").map lower) = false := by
  rw [check_eq_verdict]
  unfold verdict
  split
  · rename_i refused
    exact iff_of_true rfl ((Bool.not_eq_true' _).mp refused)
  · rename_i accepted
    refine iff_of_false (fun refused => ?_) (fun refused => accepted ((Bool.not_eq_true' _).mpr refused))
    -- no other error has this reason
    split at refused
    · exact absurd refused (by decide)
    · split at refused
      · exact absurd refused (by decide)
      · exact absurd refused (by decide)
      · split at refused
        · cases refused
        · exact absurd refused (by decide)

theorem asks_readLine (first : Option Bytes) :
    hasWord ((readLine first).map lower) = true ↔
      ∃ line, first = some line ∧ line.all isPlainByte = true ∧ word <:+: line.map lowerByte := by
  rw [readLine_lower]
  cases first with
  | none => simp [readLine, hasWord]
  | some line =>
    have spelt : "upgrade".toList = (plainText word).toList := by decide
    simp only [Option.map_some, readLine, Option.bind_some, Http.all_isPlainByte_lower, Option.some.injEq,
      exists_eq_left']
    split
    · rename_i plain
      simp only [hasWord, Option.any_some, occursIn_iff, spelt, infix_plainText, plain, true_and]
    · rename_i broken
      simp [hasWord, broken]

/-- A request is not refused for its `connection` header just if all of the first line of that name is plain and the
    word stands in a member of it, alone or not. So the word as a member of a plain first line is enough. And the header
    is read as the list of all its lines together if the first of them is plain and has the word only as a member, and
    has it if any line does. -/
theorem connection_condition {raw : List (String × Bytes)} {headers : Headers} (read : ofRaw? raw = some headers) :
    let sent := lines raw "connection"
    (check headers ≠ .error noConnection ↔ ∃ first, sent.head? = some first ∧ first.all isPlainByte = true ∧
      ∃ member ∈ members first, word <:+: member) ∧
    (∀ first, sent.head? = some first → first.all isPlainByte = true → Asks [first] →
      check headers ≠ .error noConnection) ∧
    ((∀ first, sent.head? = some first → first.all isPlainByte = true ∧
        ∀ member ∈ members first, word <:+: member → IsWord member) →
      (Asks sent → ∀ first, sent.head? = some first → Asks [first]) →
      (check headers ≠ .error noConnection ↔ Asks sent)) := by
  intro sent
  have condition : check headers ≠ .error noConnection ↔ ∃ first, sent.head? = some first ∧
      first.all isPlainByte = true ∧ ∃ member ∈ members first, word <:+: member := by
    rw [ne_eq, check_noConnection, Bool.not_eq_false, text?_eq_readLine read, asks_readLine]
    simp only [infix_members]
    rfl
  have enough : ∀ first, sent.head? = some first → first.all isPlainByte = true → Asks [first] →
      check headers ≠ .error noConnection := by
    intro first isFirst plain asks
    obtain ⟨member, within, isWord⟩ := asks
    rw [List.flatMap_singleton] at within
    exact condition.mpr ⟨first, isFirst, plain, member, within, isWord.infix⟩
  refine ⟨condition, enough, ?_⟩
  intro exact early
  constructor
  · intro accepted
    obtain ⟨first, isFirst, -, member, within, inside⟩ := condition.mp accepted
    have isWord := (exact first isFirst).2 member within inside
    exact ⟨member, List.mem_flatMap_of_mem (List.mem_of_head? isFirst) within, isWord⟩
  · intro asks
    cases isFirst : sent.head? with
    | none =>
      obtain ⟨member, within, -⟩ := asks
      rw [List.head?_eq_none_iff.mp isFirst] at within
      cases within
    | some first => exact enough first isFirst (exact first isFirst).1 (early asks first isFirst)

def sample (connection : List String) : List (String × Bytes) :=
  connection.map (fun line => ("Connection", Text.bytes line)) ++
    [("Upgrade", Text.bytes "websocket"), ("Sec-WebSocket-Key", Text.bytes "dGhlIHNhbXBsZSBub25jZQ=="),
      ("Sec-WebSocket-Version", Text.bytes "13")]

def listed : List (String × Bytes) := sample ["keep-alive,\tUPGRADE ", "close"]

theorem connection_condition_listed : ∃ headers, ofRaw? listed = some headers ∧ Asks (lines listed "connection") ∧
    check headers ≠ .error noConnection := by
  have wellFormed : ∀ field ∈ listed, Http.Headers.WellFormed field := by decide
  have read := Http.Headers.ofRaw?_wellFormed wellFormed
  have sent : lines listed "connection" = [Text.bytes "keep-alive,\tUPGRADE ", Text.bytes "close"] := by decide
  have parts : members (Text.bytes "keep-alive,\tUPGRADE ") = [Text.bytes "keep-alive", 9 :: word ++ [32]] := by decide
  have isWord : IsWord (9 :: word ++ [32]) := ⟨[9], [32], by simp, rfl⟩
  have early : Asks [Text.bytes "keep-alive,\tUPGRADE "] := ⟨9 :: word ++ [32], by simp [parts], isWord⟩
  have asks : Asks (lines listed "connection") := by
    refine ⟨9 :: word ++ [32], ?_, isWord⟩
    simp [sent, parts]
  refine ⟨_, read, asks, ((connection_condition read).2.2 ?_ ?_).mpr asks⟩
  · intro first isFirst
    rw [sent] at isFirst
    cases isFirst
    refine ⟨by decide, fun member within inside => ?_⟩
    rw [parts] at within
    rcases List.mem_pair.mp within with rfl | rfl
    · exact absurd (inside.subset (show 117 ∈ word by decide)) (by decide)
    · exact isWord
  · intro _ first isFirst
    rw [sent] at isFirst
    cases isFirst
    exact early

/-- A longer member is taken for the word, and a list in two lines is not read to its end. -/
theorem connection_is_no_list :
    (∃ headers, ofRaw? (sample ["no-upgrade"]) = some headers ∧
      ¬ Asks (lines (sample ["no-upgrade"]) "connection") ∧ check headers ≠ .error noConnection) ∧
    ∃ headers, ofRaw? (sample ["keep-alive", "Upgrade"]) = some headers ∧
      Asks (lines (sample ["keep-alive", "Upgrade"]) "connection") ∧ check headers = .error noConnection := by
  constructor
  · refine ⟨_, Http.Headers.ofRaw?_wellFormed (by decide), ?_, ?_⟩
    · rintro ⟨member, within, isWord⟩
      have parts : (lines (sample ["no-upgrade"]) "connection").flatMap members = [Text.bytes "no-upgrade"] := by
        decide
      rw [parts, List.mem_singleton] at within
      subst within
      exact absurd (isWord.mem (b := 110) (by decide)) (by decide)
    · rw [ne_eq, check_noConnection]
      decide
  · refine ⟨_, Http.Headers.ofRaw?_wellFormed (by decide), ?_, ?_⟩
    · exact ⟨word, by decide, [], [], by simp, rfl⟩
    · rw [check_noConnection]
      decide

end Gateway.WebSocket.Upgrade
