import MailIngest.Proofs.HeaderBlock
import Mathlib.Data.List.TakeWhile

/-!
# Where a conversation identifier comes from

A thread identifier comes from one of four sources (`ThreadSource`): the provider's thread id,
the 22 bytes of a `thread-index` that name the conversation's first message, a normalized
message id, or the digest of the raw header block. It is written `gm:` and the provider's id,
`ti:` and the hex of the root bytes, the message id as it is, or `sha256:` and the hex of the
digest (`ThreadSource.render`, `threadId_eq_render`).

- `render_eq_iff` : two sources are written alike exactly when they are equal, or one is a
  message id spelled as the other is written; the three prefixed kinds never meet;
- `threadId_eq_iff` : so two header maps give one thread identifier exactly when they give one
  source, or one of them a message id that reads as the other's identifier;
  `spelledProviderId_joins` is a reference `<gm:1>` joining the thread of provider id `1`;
- `reply_joins_root` : a message read from its source whose `references` begins with the
  `message-id` of a root, a bracketed id, joins the root's thread, whatever follows.
-/

namespace MailIngest

namespace Text.Hex

theorem digitValue?_digit {d : Nat} (h : d < 16) : digitValue? (digit d) = some d := by
  have hall : ∀ i : Fin 16, digitValue? (digit i) = some i := by decide
  exact hall ⟨d, h⟩

theorem isGap_digit {d : Nat} (h : d < 16) : isGap (digit d) = false := by
  have hall : ∀ i : Fin 16, isGap (digit i) = false := by decide
  exact hall ⟨d, h⟩

/-- The two digits of a byte are read back as the byte. -/
theorem pairs_byteDigits (b : UInt8) (rest : List Char) :
    pairs (byteDigits b ++ rest) = (pairs rest).map (b :: ·) := by
  have hb := b.toNat_lt
  have hhi : b.toNat / 16 < 16 := by omega
  have hlo : b.toNat % 16 < 16 := by omega
  have hbyte : (b.toNat / 16 * 16 + b.toNat % 16).toUInt8 = b := by
    rw [Nat.div_add_mod']
    exact UInt8.ofNat_toNat
  simp only [byteDigits, List.cons_append, List.nil_append, pairs, isGap_digit hhi,
    digitValue?_digit hhi, digitValue?_digit hlo, Bool.false_eq_true, if_false]
  cases pairs rest with
  | none => rfl
  | some tail =>
    show some ((b.toNat / 16 * 16 + b.toNat % 16).toUInt8 :: tail) = some (b :: tail)
    rw [hbyte]

/-- Hex digits are read back as the bytes they were written from. -/
theorem ofHex?_hex (bs : List UInt8) : ofHex? (hex bs) = some bs := by
  induction bs with
  | nil => rfl
  | cons b bs ih =>
    simp only [ofHex?, hex, String.toList_ofList, List.flatMap_cons, pairs_byteDigits] at ih ⊢
    rw [ih]
    rfl

theorem hex_injective : Function.Injective hex := fun a b h => by
  simpa [ofHex?_hex] using congrArg ofHex? h

end Text.Hex

namespace Mail

/-! ## Sources of a thread identifier -/

/-- Where a thread identifier comes from. -/
inductive ThreadSource where
  /-- The provider's thread id, trimmed. -/
  | provider (id : String)
  /-- The bytes of a `thread-index` that name the conversation's first message. -/
  | rootIndex (root : List UInt8)
  /-- A normalized message id. -/
  | messageId (id : String)
  /-- The digest of the raw header block. -/
  | digest (d : List UInt8)
deriving DecidableEq

def ThreadSource.render : ThreadSource → String
  | .provider id => "gm:" ++ id
  | .rootIndex r => "ti:" ++ Text.Hex.hex r
  | .messageId id => id
  | .digest d => "sha256:" ++ Text.Hex.hex d

/-- The root bytes of a `thread-index` value, when it is ASCII base64 of at least as many. -/
def threadIndexRootOf (value : String) : Option (List UInt8) :=
  if value.toList.any (·.toNat ≥ 0x80) then none
  else (Text.Base64.decode false value.toList).bind fun bytes =>
    if bytes.length ≥ threadIndexRoot then some (bytes.take threadIndexRoot) else none

/-- The source of the thread identifier of a message with header texts `h` and raw header
block `rawHeaders`, by the order of preference. -/
def threadSource (h : HeaderMap) (rawHeaders : String) : ThreadSource :=
  let gm := h.first "x-gm-thrid"
  if !gm.isEmpty then .provider gm
  else
    let ti := h.first "thread-index"
    match (if ti.isEmpty then none else threadIndexRootOf ti) with
    | some r => .rootIndex r
    | none =>
      match referencedId h ["references", "in-reply-to", "message-id"] with
      | some id => .messageId id
      | none => .digest (Digest.sha256 (Text.Utf8.encode rawHeaders))

theorem threadIndexId_eq (value : String) :
    threadIndexId value = (threadIndexRootOf value).map fun r => "ti:" ++ Text.Hex.hex r := by
  unfold threadIndexId threadIndexRootOf
  split
  · rfl
  · cases Text.Base64.decode false value.toList with
    | none => rfl
    | some bytes => by_cases hlong : bytes.length ≥ threadIndexRoot <;> simp [hlong]

theorem threadId_eq_render (h : HeaderMap) (raw : String) :
    threadId h raw = (threadSource h raw).render := by
  have hti : (if (h.first "thread-index").isEmpty then none else threadIndexId (h.first "thread-index")) =
      (if (h.first "thread-index").isEmpty then none
        else threadIndexRootOf (h.first "thread-index")).map fun r => "ti:" ++ Text.Hex.hex r := by
    split <;> simp [threadIndexId_eq]
  unfold threadId threadSource
  by_cases hgm : (h.first "x-gm-thrid").isEmpty = true
  · simp only [hgm, Bool.not_true, Bool.false_eq_true, if_false, hti]
    cases (if (h.first "thread-index").isEmpty then none else threadIndexRootOf (h.first "thread-index")) with
    | some r => rfl
    | none => cases referencedId h ["references", "in-reply-to", "message-id"] <;> rfl
  · simp only [hgm, Bool.not_false, if_true]
    rfl

/-! ## Which sources are written alike -/

section Render

theorem provider_ne_rootIndex (a : String) (r : List UInt8) :
    ("gm:" ++ a) ≠ "ti:" ++ Text.Hex.hex r := by
  simp [String.ext_iff]

theorem provider_ne_digest (a : String) (d : List UInt8) :
    ("gm:" ++ a) ≠ "sha256:" ++ Text.Hex.hex d := by
  simp [String.ext_iff]

theorem rootIndex_ne_digest (r d : List UInt8) :
    ("ti:" ++ Text.Hex.hex r) ≠ "sha256:" ++ Text.Hex.hex d := by
  simp [String.ext_iff]

/-- Two sources are written alike exactly when they are equal, or one is a message id spelled
as the other is written. A provider id, a thread root and a digest are each written behind a
prefix of their own, so only a message id can meet another kind. -/
theorem render_eq_iff {s t : ThreadSource} :
    s.render = t.render ↔ s = t ∨ s = .messageId t.render ∨ t = .messageId s.render := by
  constructor
  · intro h
    cases s <;> cases t <;>
      simp_all [ThreadSource.render, provider_ne_rootIndex, provider_ne_digest,
        rootIndex_ne_digest, (provider_ne_rootIndex _ _).symm, (provider_ne_digest _ _).symm,
        (rootIndex_ne_digest _ _).symm, Text.Hex.hex_injective.eq_iff]
  · rintro (rfl | rfl | rfl) <;> rfl

end Render

/-- Two header maps give one thread identifier exactly when they give one source, or one of
them gives a message id that reads as the other's identifier. -/
theorem threadId_eq_iff (h₁ h₂ : HeaderMap) (raw₁ raw₂ : String) :
    threadId h₁ raw₁ = threadId h₂ raw₂ ↔
      threadSource h₁ raw₁ = threadSource h₂ raw₂ ∨
        threadSource h₁ raw₁ = .messageId (threadId h₂ raw₂) ∨
        threadSource h₂ raw₂ = .messageId (threadId h₁ raw₁) := by
  rw [threadId_eq_render, threadId_eq_render]
  exact render_eq_iff

/-- A reference `<gm:1>` reads as the identifier of provider thread `1`: two sources of
different kinds, one identifier. -/
theorem spelledProviderId_joins :
    threadId [("x-gm-thrid", ["1"])] "" = threadId [("references", ["<gm:1>"])] "" ∧
      threadSource [("x-gm-thrid", ["1"])] "" = .provider "1" ∧
      threadSource [("references", ["<gm:1>"])] "" = .messageId "gm:1" := by
  decide +kernel

/-! ## A reply and its root -/

section Replies

/-- A value with no angle bracket holds no bracketed id. -/
theorem firstBracketed_of_idChars :
    ∀ {cs : List Char}, (∀ c ∈ cs, isIdChar c = true) → firstBracketed cs = none
  | [], _ => rfl
  | c :: cs, h => by
    have hc : c ≠ '<' := fun e => by simp [e, isIdChar] at h
    rw [firstBracketed, if_neg hc]
    exact firstBracketed_of_idChars fun x hx => h x (List.mem_cons_of_mem _ hx)

/-- When a value stops having id characters, what is read from it after an opening bracket,
the inside and the character that ends it, is read alike from anything it begins. -/
theorem inside_append {cs : List Char} (hstop : ¬ ∀ x ∈ cs, isIdChar x = true) (rest : List Char) :
    ∃ d ds, cs.drop (cs.takeWhile isIdChar).length = d :: ds ∧
      (cs ++ rest).takeWhile isIdChar = cs.takeWhile isIdChar ∧
      (cs ++ rest).drop (cs.takeWhile isIdChar).length = d :: (ds ++ rest) := by
  have hlt : (cs.takeWhile isIdChar).length < cs.length := by
    refine Nat.lt_of_le_of_ne (List.takeWhile_prefix _).length_le fun heq => hstop ?_
    exact List.takeWhile_eq_self_iff.mp ((List.takeWhile_prefix _).eq_of_length heq)
  obtain ⟨d, ds, hd⟩ : ∃ d ds, cs.drop (cs.takeWhile isIdChar).length = d :: ds :=
    List.exists_cons_of_ne_nil fun h => Nat.not_le.mpr hlt (List.drop_eq_nil_iff.mp h)
  refine ⟨d, ds, hd, ?_, ?_⟩
  · rw [List.takeWhile_append, if_neg (Nat.ne_of_lt hlt)]
  · rw [List.drop_append_of_le_length (Nat.le_of_lt hlt), hd, List.cons_append]

/-- The first bracketed id of a value is the first of anything it begins: the search for a
closing bracket after an opening one stops inside the value. -/
theorem firstBracketed_append :
    ∀ {cs body : List Char}, firstBracketed cs = some body → ∀ rest : List Char,
      firstBracketed (cs ++ rest) = some body
  | [], _, h, _ => by simp [firstBracketed] at h
  | c :: cs, body, h, rest => by
    by_cases hc : c = '<'
    · subst hc
      by_cases hall : ∀ x ∈ cs, isIdChar x = true
      · -- no bracket follows the opening one, so the value holds no id at all
        have hnone : firstBracketed ('<' :: cs) = none := by
          rw [firstBracketed, if_pos rfl]
          dsimp only
          rw [List.takeWhile_eq_self_iff.mpr hall, List.drop_length]
          exact firstBracketed_of_idChars hall
        rw [hnone] at h
        cases h
      · obtain ⟨d, ds, hd, htake, hdrop⟩ := inside_append hall rest
        rw [firstBracketed, if_pos rfl] at h
        rw [List.cons_append, firstBracketed, if_pos rfl]
        dsimp only at h ⊢
        rw [hd] at h
        rw [htake, hdrop]
        by_cases hclose : d = '>'
        · subst hclose
          by_cases hempty : (cs.takeWhile isIdChar).isEmpty = true
          · simp only [hempty, if_true] at h ⊢
            exact firstBracketed_append h rest
          · simp only [hempty, Bool.false_eq_true, if_false] at h ⊢
            exact h
        · -- no closing bracket: the search goes on after the opening one, in both
          split at h
          · simp_all
          · split
            · simp_all
            · exact firstBracketed_append h rest
    · rw [firstBracketed, if_neg hc] at h
      rw [List.cons_append, firstBracketed, if_neg hc]
      exact firstBracketed_append h rest

/-- The first message id of a value that holds a bracketed id is that id, normalized, when that
is not empty. -/
theorem firstMessageId_of_bracketed {v : String} {body : List Char}
    (h : firstBracketed v.toList = some body) (hne : normalizeMessageId (String.ofList body) ≠ "") :
    firstMessageId v = some (normalizeMessageId (String.ofList body)) := by
  simp only [firstMessageId, h]
  rw [if_neg (by simpa [String.isEmpty_iff] using hne)]

theorem referencedId_blank {h : HeaderMap} {name : String} (names : List String)
    (hb : h.first name = "") : referencedId h (name :: names) = referencedId h names := by
  simp [referencedId, hb]

theorem referencedId_found {h : HeaderMap} {name : String} (names : List String) {id : String}
    (hv : firstMessageId (h.first name) = some id) (hid : id ≠ "") :
    referencedId h (name :: names) = some id := by
  have hfull : (h.first name).isEmpty = false := by
    cases hb : (h.first name).isEmpty
    · rfl
    · rw [String.isEmpty_iff.mp hb] at hv
      cases hv
  simp [referencedId, hfull, hv, hid]

/-- Without a provider thread id or a thread index, the thread identifier is the first message
id of the threading headers, when there is one. -/
theorem threadId_of_referenced {h : HeaderMap} {raw id : String} (hgm : h.first "x-gm-thrid" = "")
    (hti : h.first "thread-index" = "")
    (hid : referencedId h ["references", "in-reply-to", "message-id"] = some id) :
    threadId h raw = id := by
  simp [threadId, hgm, hti, hid]

/-- A reply joins its root's thread. The root's only threading header is its `message-id`,
which holds a bracketed id that does not normalize to nothing; the reply has neither a provider
thread id nor a thread index, and its `references` begins with the root's `message-id` text,
whatever follows. Both are read with that id, normalized, as their thread identifier. -/
theorem reply_joins_root {nowR nowA : Time.DateTime} {rawR rawA : Bytes} {pathR pathA : String}
    {uidR uidA : Archive.GivenUid} {cR cA : Html.Converter} {root reply : Archive.Message}
    (hroot : ((Archive.read nowR rawR pathR uidR).run.run cR).1 = .ok root)
    (hreply : ((Archive.read nowA rawA pathA uidA).run.run cA).1 = .ok reply)
    (hbare : ∀ name ∈ ["x-gm-thrid", "thread-index", "references", "in-reply-to"],
      root.headers.first name = "")
    (hplain : ∀ name ∈ ["x-gm-thrid", "thread-index"], reply.headers.first name = "")
    {rest : String} (hrefs : reply.headers.first "references" = root.headers.first "message-id" ++ rest)
    {body : List Char} (hid : firstBracketed (root.headers.first "message-id").toList = some body)
    (hne : normalizeMessageId (String.ofList body) ≠ "") :
    root.threadId = normalizeMessageId (String.ofList body) ∧ reply.threadId = root.threadId := by
  have hrootId : root.threadId = normalizeMessageId (String.ofList body) := by
    rw [(Archive.read_headers hroot).2]
    refine threadId_of_referenced (hbare _ (by simp)) (hbare _ (by simp)) ?_
    rw [referencedId_blank _ (hbare _ (by simp)), referencedId_blank _ (hbare _ (by simp)),
      referencedId_found _ (firstMessageId_of_bracketed hid hne) hne]
  -- the reply's references begin with the root's bracketed id, which the search finds first
  have hrefsId : firstMessageId (reply.headers.first "references") =
      some (normalizeMessageId (String.ofList body)) := by
    rw [hrefs]
    refine firstMessageId_of_bracketed ?_ hne
    rw [String.toList_append]
    exact firstBracketed_append hid _
  refine ⟨hrootId, ?_⟩
  rw [hrootId, (Archive.read_headers hreply).2]
  exact threadId_of_referenced (hplain _ (by simp)) (hplain _ (by simp))
    (referencedId_found _ hrefsId hne)

def rootMessage : Bytes :=
  Text.Utf8.encode "Message-ID: <Root@Example.com>\r\n\r\nhi\r\n"

/-- A reply whose folded `references` begins with the root's message id. -/
def replyMessage : Bytes :=
  Text.Utf8.encode "References: <Root@Example.com>\r\n <other@x>\r\n\r\nre\r\n"

/-- The reply is read into the root's thread, `root@example.com`. -/
theorem reply_joins_rootMessage :
    ∃ root reply, ((Archive.read default rootMessage "INBOX" (.ofInt 1)).run.run {}).1 = .ok root ∧
      ((Archive.read default replyMessage "INBOX" (.ofInt 2)).run.run {}).1 = .ok reply ∧
      root.threadId = "root@example.com" ∧ reply.threadId = root.threadId := by
  have hR : ((Archive.read default rootMessage "INBOX" (.ofInt 1)).run.run {}).1.toOption.map
      (·.headers) = some [("message-id", ["<Root@Example.com>"])] := by
    decide +kernel
  have hA : ((Archive.read default replyMessage "INBOX" (.ofInt 2)).run.run {}).1.toOption.map
      (·.headers) = some [("references", ["<Root@Example.com> <other@x>"])] := by
    decide +kernel
  obtain ⟨root, hroot, hrootHeaders⟩ := Option.map_eq_some_iff.mp hR
  obtain ⟨reply, hreply, hreplyHeaders⟩ := Option.map_eq_some_iff.mp hA
  have hrefs : reply.headers.first "references" = root.headers.first "message-id" ++ " <other@x>" := by
    rw [hrootHeaders, hreplyHeaders]
    decide +kernel
  have hbracketed : firstBracketed (root.headers.first "message-id").toList =
      some "Root@Example.com".toList := by
    rw [hrootHeaders]
    decide +kernel
  obtain ⟨hid, hsame⟩ := reply_joins_root (eq_ok_of_toOption hroot) (eq_ok_of_toOption hreply)
    (by rw [hrootHeaders]; decide +kernel) (by rw [hreplyHeaders]; decide +kernel) hrefs hbracketed
    (by decide +kernel)
  exact ⟨root, reply, eq_ok_of_toOption hroot, eq_ok_of_toOption hreply,
    hid.trans (by decide +kernel), hsame⟩

end Replies

end Mail

end MailIngest
