import Mathlib.Data.List.TakeWhile
import Rendezvous.Discovery.Conversation
import Rendezvous.Proofs.Json.Reader

/-!
# Rendezvous.Proofs.Discovery.Answers

What is answered on a stream. Each frame has a *reply*, which the frame and what came before it
determine, however long it is. The replies are sent in the order of the frames up to the first
that is too long for a frame, and that one closes the stream instead.

The reply to a request that was granted fits, and so does that of a store that is closed. A
reply that repeats what was sent need not, even where that did fit.

* `Conversation.reply`, `Conversation.replies`: what would be answered;
* `Conversation.converse_open`: what is;
* `Conversation.fits_registered`, `Conversation.fits_unregistered`, `Conversation.fits_closed`:
  replies that fit;
* `Conversation.converse_quote`: replies that do not fit, as the text sent is repeated in them;
* `Conversation.converse_answers`.
-/

namespace Rendezvous.Discovery.Conversation

/-! ### Replies -/

/-- What a frame makes of the store, and the response to it, be it ever so long. -/
def reply (endpoints : List Sync.Endpoint) (s : Store) (now : Instant) (frame : Bytes) :
    Store × Response :=
  match Json.decode Request.decoder frame with
  | .ok r =>
    let o := perform endpoints s now r
    (o.store, .ofAnswer o.answer)
  | .error e => (s, .malformed e)

/-- The responses to frames that arrive one after the other, be they ever so long. -/
def replies (endpoints : List Sync.Endpoint) : Store → List (Instant × Bytes) → List Response
  | _, [] => []
  | s, (now, frame) :: rest =>
    (reply endpoints s now frame).2 :: replies endpoints (reply endpoints s now frame).1 rest

/-- Whether a response fits a frame. -/
def fits (r : Response) : Bool := (encode r).length ≤ Framing.maxLength

theorem fits_iff (r : Response) : fits r = true ↔ (encode r).length ≤ Framing.maxLength := by
  simp [fits]

theorem length_replies (endpoints : List Sync.Endpoint) (s : Store)
    (frames : List (Instant × Bytes)) :
    (replies endpoints s frames).length = frames.length := by
  induction frames generalizing s with
  | nil => rfl
  | cons f frames ih => simp [replies, ih]

variable (endpoints : List Sync.Endpoint) {c : Conversation}

theorem say_eq (c : Conversation) (r : Response) :
    c.say r = if fits r then { c with answers := c.answers ++ [r] }
      else { c with isOpen := false } := by
  unfold say Framing.encode? fits
  split <;> simp_all

/-- A frame on an open stream is answered if the reply fits, and closes the stream if not. -/
theorem receive_open (hopen : c.isOpen = true) (now : Instant) (frame : Bytes) :
    let after := receive endpoints c now frame
    after.store = (reply endpoints c.store now frame).1 ∧
      after.isOpen = fits (reply endpoints c.store now frame).2 ∧
      after.answers = c.answers ++ if fits (reply endpoints c.store now frame).2 then
        [(reply endpoints c.store now frame).2] else [] := by
  cases hframe : Json.decode Request.decoder frame with
  | ok r =>
      simp only [receive, reply, hopen, hframe, if_true, answer, say_eq]
      split <;> simp_all
  | error e =>
      simp only [receive, reply, hopen, hframe, if_true, refuse, say_eq]
      split <;> simp_all

theorem converse_cons (c : Conversation) (now : Instant) (frame : Bytes)
    (frames : List (Instant × Bytes)) :
    converse endpoints c ((now, frame) :: frames) =
      converse endpoints (receive endpoints c now frame) frames := rfl

/-- On a closed stream nothing happens. -/
theorem converse_closed (hclosed : c.isOpen = false) (frames : List (Instant × Bytes)) :
    converse endpoints c frames = c := by
  induction frames with
  | nil => rfl
  | cons f frames ih =>
      obtain ⟨now, frame⟩ := f
      have hreceive : receive endpoints c now frame = c := by simp [receive, hclosed]
      rw [converse_cons, hreceive, ih]

/-- The replies are sent up to the first that does not fit, and the stream is open if there is
none. -/
theorem converse_open (hopen : c.isOpen = true) (frames : List (Instant × Bytes)) :
    (converse endpoints c frames).answers =
        c.answers ++ (replies endpoints c.store frames).takeWhile fits ∧
      (converse endpoints c frames).isOpen = (replies endpoints c.store frames).all fits := by
  induction frames generalizing c with
  | nil => simp [converse, replies, hopen]
  | cons f frames ih =>
      obtain ⟨now, frame⟩ := f
      obtain ⟨hstore, hafter, hanswers⟩ := receive_open endpoints hopen now frame
      rw [converse_cons, replies, List.takeWhile_cons, List.all_cons]
      by_cases hfits : fits (reply endpoints c.store now frame).2 = true
      · rw [hfits] at hafter hanswers ⊢
        obtain ⟨hrest, hend⟩ := ih hafter
        rw [hrest, hend, hstore, hanswers]
        simp
      · -- Nothing is answered behind the reply that closed the stream.
        rw [Bool.eq_false_iff.2 hfits] at hafter hanswers ⊢
        rw [converse_closed endpoints hafter, hanswers, hafter]
        simp

theorem converse_start (endpoints : List Sync.Endpoint) (s : Store)
    (frames : List (Instant × Bytes)) :
    (converse endpoints (start s) frames).answers =
        (replies endpoints s frames).takeWhile fits ∧
      (converse endpoints (start s) frames).isOpen = (replies endpoints s frames).all fits :=
  converse_open endpoints rfl frames

/-! ### Replies that fit -/

theorem length_digits_le {n k : Nat} (hk : 0 < k) (h : n < 10 ^ k) :
    (Json.digits n).length ≤ k := by
  induction k generalizing n with
  | zero => cases hk
  | succ k ih =>
      by_cases hn : n < 10
      · rw [Json.digits_of_lt hn]
        exact Nat.succ_le_succ (Nat.zero_le k)
      · have hdiv : n / 10 < 10 ^ k := by
          rw [Nat.div_lt_iff_lt_mul (by decide), ← Nat.pow_succ]
          exact h
        have hpos : 0 < k := by
          rcases Nat.eq_zero_or_pos k with rfl | hpos
          · omega
          · exact hpos
        rw [Json.digits_of_le (Nat.not_lt.1 hn), List.length_append]
        exact Nat.succ_le_succ (ih hpos hdiv)

theorem fits_unregistered : fits .unregistered = true := by
  rw [fits_iff, encode, Bytes.ofString_eq]
  decide

theorem fits_closed : fits (.ofAnswer (.error (.store .closed))) = true := by
  rw [fits_iff, encode, Bytes.ofString_eq]
  decide

/-- A lifetime of 64 bits leaves room for everything else. -/
theorem fits_registered {ttl : Nat} (h : ttl < 2 ^ 64) : fits (.registered ttl) = true := by
  have hbytes : encode (.registered ttl) = (Json.Value.object
      [("type", .text "registered"), ("ttl", .nat ttl)]).bytes := rfl
  have htype : (Json.memberBytes "type" (.text "registered")).length = 19 := by
    rw [Json.memberBytes, Json.ofString_quote, Json.bytes_text]
    decide
  have httl : (Json.memberBytes "ttl" (.nat ttl)).length = 6 + (Json.digits ttl).length := by
    have hquote : (Bytes.ofString (Json.quote "ttl")).length = 5 := by
      rw [Json.ofString_quote]
      decide
    rw [Json.memberBytes, Json.Value.nat, Json.bytes_nat, List.length_append, List.length_cons,
      hquote]
    omega
  have hdigits : (Json.digits ttl).length ≤ 20 := length_digits_le (by decide) (by omega)
  rw [fits_iff, hbytes, Json.bytes_object, Framing.maxLength]
  simp only [Json.entriesBytes, Json.entriesTail, List.length_append, List.length_cons, htype, httl,
    List.length_nil]
  omega

/-! ### Replies that do not -/

/-- What an answer that quotes a text has in it of the text. -/
def echo (text : String) : List Char :=
  (text.toList.flatMap (Text.escapeIn '"')).flatMap Json.escape

theorem length_le_utf8 (cs : List Char) : cs.length ≤ (cs.flatMap Bytes.utf8).length := by
  induction cs with
  | nil => exact Nat.le_refl 0
  | cons c cs ih =>
      have hc : 0 < (Bytes.utf8 c).length := by
        rw [Bytes.utf8, String.length_utf8EncodeChar]
        exact c.utf8Size_pos
      rw [List.flatMap_cons, List.length_append, List.length_cons]
      omega

/-- An error takes at least as many bytes as its message has characters once it is quoted. -/
theorem length_message_lt (status : Status) (message : String) :
    (message.toList.flatMap Json.escape).length < (encode (.error status message)).length := by
  have hbytes : encode (.error status message) = (Json.Value.object
      [("type", .text "error"), ("status", .text status.wireName),
        ("message", .text message)]).bytes := rfl
  have hmessage := length_le_utf8 (message.toList.flatMap Json.escape)
  rw [hbytes, Json.bytes_object]
  simp only [Json.entriesBytes, Json.entriesTail, Json.memberBytes, Json.bytes_text,
    List.length_append, List.length_cons]
  omega

/-- A text that is no object is refused with a message that quotes it. -/
theorem reply_quote (s : Store) (now : Instant) (text : String) :
    ∃ before after, reply endpoints s now (Bytes.ofString (Json.quote text)) =
      (s, .error .malformed (before ++ Text.quoted text ++ after)) := by
  obtain ⟨node, hread, hspells⟩ := Json.read_render (v := .text text) trivial
  cases hspells with
  | text _ start stop =>
      rw [Json.Value.render] at hread
      let message := "invalid type: " ++ ("string " ++ Text.quoted text) ++ ", expected " ++
        ("internally tagged enum " ++ "RendezvousRequest")
      have hdecode : Json.decode Request.decoder (Bytes.ofString (Json.quote text)) =
          .error (.badData message (some stop)) := by
        rw [Json.decode, hread]
        rfl
      refine ⟨"invalid type: " ++ "string ", ", expected " ++
        ("internally tagged enum " ++ "RendezvousRequest") ++ " at line " ++
          toString stop.line ++ " column " ++ toString stop.column, ?_⟩
      simp only [reply, hdecode, Response.malformed, Json.DecodeError.message,
        Json.DecodeError.message.withPlace, message, String.append_assoc]

/-- **A text whose echo is too long is not answered**, and the stream is closed. -/
theorem converse_quote (s : Store) (now : Instant) {text : String}
    (h : Framing.maxLength ≤ (echo text).length) (rest : List (Instant × Bytes)) :
    let c := converse endpoints (start s) ((now, Bytes.ofString (Json.quote text)) :: rest)
    c.answers = [] ∧ c.isOpen = false := by
  obtain ⟨before, after, hreply⟩ := reply_quote endpoints s now text
  have hlong : fits (reply endpoints s now (Bytes.ofString (Json.quote text))).2 = false := by
    rw [hreply, Bool.eq_false_iff, Ne, fits_iff]
    have hecho : (echo text).length ≤
        ((before ++ Text.quoted text ++ after).toList.flatMap Json.escape).length := by
      simp only [String.toList_append, List.flatMap_append, List.length_append, Text.quoted,
        String.toList_ofList, echo]
      omega
    exact Nat.not_le.2 (Nat.lt_of_le_of_lt (h.trans hecho) (length_message_lt .malformed _))
  obtain ⟨hanswers, hopen⟩ := converse_start endpoints s
    ((now, Bytes.ofString (Json.quote text)) :: rest)
  constructor
  · rw [hanswers, replies, List.takeWhile_cons_of_neg (Bool.eq_false_iff.1 hlong)]
  · rw [hopen, replies, List.all_cons, hlong, Bool.false_and]

/-! ### What is answered -/

/-- **Frames are answered in order, each once, so long as the replies fit.** All are answered
exactly if all replies fit, and exactly then the stream stays open. What is granted fits, and
so does what a closed store says. -/
theorem converse_answers (endpoints : List Sync.Endpoint) (s : Store)
    (frames : List (Instant × Bytes)) :
    let c := converse endpoints (start s) frames
    let rs := replies endpoints s frames
    rs.length = frames.length ∧ c.answers = rs.takeWhile fits ∧
    (c.answers.length = frames.length ↔ ∀ r ∈ rs, fits r = true) ∧
    (c.isOpen = true ↔ ∀ r ∈ rs, fits r = true) ∧
    (∀ ttl < 2 ^ 64, fits (.registered ttl) = true) ∧ fits .unregistered = true ∧
    fits (.ofAnswer (.error (.store .closed))) = true := by
  obtain ⟨hanswers, hopen⟩ := converse_start endpoints s frames
  refine ⟨length_replies endpoints s frames, hanswers, ?_, ?_, fun ttl => fits_registered,
    fits_unregistered, fits_closed⟩
  · rw [hanswers, ← length_replies endpoints s frames]
    constructor
    · -- A prefix of the replies that is as long as they are is all of them.
      intro hlength r hr
      rw [← (List.takeWhile_prefix fits).eq_of_length hlength] at hr
      exact List.mem_takeWhile_imp hr
    · intro hfits
      rw [List.takeWhile_eq_self_iff.2 hfits]
  · rw [hopen, List.all_eq_true]

theorem length_flatMap_replicate {α β : Type} (n : Nat) (a : α) (f : α → List β) :
    ((List.replicate n a).flatMap f).length = n * (f a).length := by
  rw [List.length_flatMap, List.map_replicate, List.sum_replicate_nat]

/-- The text of so many characters that an answer spells with six others, one of them a
backslash. -/
def rubouts (n : Nat) : String := String.ofList (List.replicate n '\x7f')

theorem length_quote_rubouts (n : Nat) :
    (Bytes.ofString (Json.quote (rubouts n))).length = n + 2 := by
  have hspelled : ((Json.escape '\x7f').flatMap Bytes.utf8).length = 1 := by decide
  rw [Json.ofString_quote, rubouts, String.toList_ofList, List.flatMap_assoc, List.length_cons,
    List.length_append, length_flatMap_replicate, hspelled, Nat.mul_one]
  rfl

theorem length_echo_rubouts (n : Nat) : (echo (rubouts n)).length = n * 7 := by
  have hspelled : ((Text.escapeIn '"' '\x7f').flatMap Json.escape).length = 7 := by
    decide +kernel
  rw [echo, rubouts, String.toList_ofList, List.flatMap_assoc, length_flatMap_replicate, hspelled]

/-- A frame of a sixth of the length that a frame may have closes the stream, without an
answer. -/
theorem rubouts_unanswered :
    (Bytes.ofString (Json.quote (rubouts 700000))).length = 700002 ∧
    700002 ≤ Framing.maxLength ∧
    let c := converse [] (start (.empty Registration.maxTtl))
      [(0, Bytes.ofString (Json.quote (rubouts 700000)))]
    c.answers = [] ∧ c.isOpen = false := by
  refine ⟨length_quote_rubouts 700000, by decide, converse_quote _ _ 0 ?_ []⟩
  rw [length_echo_rubouts]
  decide

end Rendezvous.Discovery.Conversation
