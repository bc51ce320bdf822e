import Lexeme.Log.Event
import Lexeme.Proofs.BuildLimits
import Lexeme.Proofs.Cuts

/-!
# Messages of limited length

A message that is too long is cut at the last place between two characters that the limit allows.
The search for this place goes back from the limit, and only the bytes of one character can lie
between the two (`Text.exists_cut`, `Text.add_utf8Size_le_of_append`). It therefore takes at most
three steps (`Text.frontUpTo_eq`), and what stands in front of the place is the longest leading part
of the message that fits (`Log.cutBack_of_cut`).
-/

set_option autoImplicit false
set_option relaxedAutoImplicit false

namespace Lexeme

namespace Text

/-! ### Places around a limit -/

/-- A limit inside a text falls on a character, either in front of it or between its bytes. -/
theorem exists_cut {cs : List Char} {limit : Nat} (hlt : limit < byteWidth cs) :
    ∃ front c back, cs = front ++ c :: back ∧ byteWidth front ≤ limit ∧
      limit < byteWidth front + c.utf8Size := by
  induction cs generalizing limit with
  | nil => simp at hlt
  | cons c cs ih =>
    rw [byteWidth_cons] at hlt
    by_cases hfirst : limit < c.utf8Size
    · exact ⟨[], c, cs, rfl, by simp, by simpa using hfirst⟩
    · have hrest : limit - c.utf8Size < byteWidth cs := by omega
      obtain ⟨front, d, back, rfl, hle, hlast⟩ := ih hrest
      refine ⟨c :: front, d, back, rfl, ?_, ?_⟩ <;> rw [byteWidth_cons] <;> omega

/-- A place behind the start of a character lies behind all its bytes. -/
theorem add_utf8Size_le_of_append {front back before after : List Char} {c : Char}
    (hsplit : front ++ c :: back = before ++ after) (hlt : byteWidth front < byteWidth before) :
    byteWidth front + c.utf8Size ≤ byteWidth before := by
  obtain ⟨middle, rfl, hmiddle⟩ := exists_between_of_append hsplit (Nat.le_of_lt hlt)
  cases middle with
  | nil => simp at hlt
  | cons d middle =>
    obtain ⟨rfl, -⟩ := List.cons.inj hmiddle
    rw [byteWidth_append, byteWidth_cons]
    omega

/-- There is no place between two characters inside one of them. -/
theorem not_isValid_of_inside {source : String} {front back : List Char} {c : Char} {offset : Nat}
    (hsource : source.toList = front ++ c :: back) (hafter : byteWidth front < offset)
    (hbefore : offset < byteWidth front + c.utf8Size) :
    ¬ String.Pos.Raw.IsValid source ⟨offset⟩ := by
  rw [isValid_iff_exists_toList]
  rintro ⟨before, after, hsplit, rfl⟩
  have hle := add_utf8Size_le_of_append (hsource.symm.trans hsplit) hafter
  omega

theorem cutAt?_eq_none {front back : List Char} {c : Char} {offset : Nat}
    (hafter : byteWidth front < offset) (hbefore : offset < byteWidth front + c.utf8Size) :
    cutAt? offset (front ++ c :: back) = none := by
  rw [Option.eq_none_iff_forall_ne_some]
  rintro ⟨before, after⟩ hcut
  obtain ⟨hsplit, rfl⟩ := (cutAt?_eq_some_iff _ _ _ _).mp hcut
  have hle := add_utf8Size_le_of_append hsplit hafter
  omega

/-! ### The search -/

theorem frontUpTo_of_cut {cs front back : List Char} {offset : Nat}
    (hcut : cutAt? offset cs = some (front, back)) : frontUpTo cs offset = front := by
  cases offset with
  | zero =>
    rw [cutAt?, cutFrom, Option.some.injEq, Prod.mk.injEq] at hcut
    exact hcut.1
  | succ offset => rw [frontUpTo, hcut]

/-- From a byte of a character the search goes back to the start of that character. -/
theorem frontUpTo_eq (front back : List Char) {c : Char} {steps : Nat}
    (hsteps : steps < c.utf8Size) :
    frontUpTo (front ++ c :: back) (byteWidth front + steps) = front := by
  induction steps with
  | zero => exact frontUpTo_of_cut (cutAt?_append front (c :: back))
  | succ steps ih =>
    rw [← Nat.add_assoc, frontUpTo, cutAt?_eq_none (by omega) (by omega)]
    exact ih (by omega)

end Text

namespace Log

open Text (byteWidth)

/-! ### The message of an event -/

theorem shorten_of_le {message : String}
    (hfits : message.utf8ByteSize ≤ Limits.current.maxMessageLength) :
    shorten message = message :=
  if_pos hfits

/-- A message that is too long is cut in front of the character on which the limit falls. -/
theorem shorten_of_cut {message : String} {front back : List Char} {c : Char} {steps : Nat}
    (hmessage : message.toList = front ++ c :: back) (hsteps : steps < c.utf8Size)
    (hlimit : Limits.current.maxMessageLength = byteWidth front + steps) :
    shorten message = String.ofList front ++ "..." := by
  have hsize : message.utf8ByteSize = byteWidth (front ++ c :: back) := by
    rw [← hmessage, Text.byteWidth_toList]
  rw [Text.byteWidth_append, Text.byteWidth_cons] at hsize
  rw [shorten, if_neg (by omega), hmessage, hlimit, Text.frontUpTo_eq front back hsteps]

/-- What is kept of a message reaches up to the place that a search finds. The search goes back from
the limit byte by byte, for a number of steps, until it comes to a place between two characters. -/
structure CutBack (limit : Nat) (message kept : String) (steps : Nat) : Prop where
  leads : ∃ rest, message = kept ++ rest
  longest : ∀ front back, message = front ++ back → front.utf8ByteSize ≤ limit →
    ∃ more, kept = front ++ more
  size_eq : kept.utf8ByteSize = limit - steps
  steps_le : steps ≤ 3
  steps_lt : steps < limit
  isValid : String.Pos.Raw.IsValid message ⟨limit - steps⟩
  inside : ∀ step < steps, ¬ String.Pos.Raw.IsValid message ⟨limit - step⟩

theorem cutBack_of_cut {message : String} {front back : List Char} {c : Char} {limit steps : Nat}
    (hmessage : message.toList = front ++ c :: back) (hsteps : steps < c.utf8Size)
    (hlimit : limit = byteWidth front + steps) (hpositive : steps < limit) :
    CutBack limit message (String.ofList front) steps := by
  have hstop : limit - steps = byteWidth front := by omega
  have hfour := c.utf8Size_le_four
  constructor
  case leads =>
    refine ⟨String.ofList (c :: back), String.toList_inj.mp ?_⟩
    rw [hmessage, ← String.ofList_append, String.toList_ofList]
  case longest =>
    intro part rest hpart hle
    have hsplit : front ++ c :: back = part.toList ++ rest.toList := by
      rw [← hmessage, hpart, String.toList_append]
    rw [← Text.byteWidth_toList] at hle
    -- A longer part would take all bytes of the character on which the limit falls.
    have hshort : byteWidth part.toList ≤ byteWidth front := by
      refine Nat.le_of_not_lt fun hlonger ↦ ?_
      have hbehind := Text.add_utf8Size_le_of_append hsplit hlonger
      omega
    obtain ⟨more, hmore, -⟩ := Text.exists_between_of_append hsplit.symm hshort
    refine ⟨String.ofList more, String.toList_inj.mp ?_⟩
    rw [String.toList_append, String.toList_ofList, String.toList_ofList, hmore]
  case size_eq => rw [hstop, ← Text.byteWidth_toList, String.toList_ofList]
  case steps_le => omega
  case steps_lt => exact hpositive
  case isValid => exact hstop ▸ Text.isValid_of_append hmessage
  case inside =>
    intro step hstep
    exact Text.not_isValid_of_inside hmessage (by omega) (by omega)

/-- The message of an event is the whole message if it fits. Otherwise it is the longest leading
part that ends between two characters and fits, with three points. The search for its end takes no
more than three steps back from the limit and stops before the start of the message. -/
theorem Event.message_make (time : Time.Instant) (level : Level) (code : Code) (message : String) :
    let limit := Limits.current.maxMessageLength
    let stored := (make time level code message).message
    (message.utf8ByteSize ≤ limit → stored = message) ∧
      (limit < message.utf8ByteSize → ∃ kept steps, stored = kept ++ "..." ∧
        CutBack limit message kept steps ∧ limit - 4 < kept.utf8ByteSize) ∧
      stored.utf8ByteSize ≤ limit + 3 := by
  intro limit stored
  have hroom : 4 ≤ limit := Limits.ample_current.le_maxMessageLength
  rcases Nat.lt_or_ge limit message.utf8ByteSize with hlong | hfits
  · have hwidth : limit < byteWidth message.toList := by rwa [Text.byteWidth_toList]
    obtain ⟨front, c, back, hmessage, hle, hlast⟩ := Text.exists_cut hwidth
    obtain ⟨steps, hlimit⟩ := Nat.exists_eq_add_of_le hle
    have hfour := c.utf8Size_le_four
    have hsteps : steps < c.utf8Size := by omega
    have hstored : stored = String.ofList front ++ "..." := shorten_of_cut hmessage hsteps hlimit
    have hcut : CutBack limit message (String.ofList front) steps :=
      cutBack_of_cut hmessage hsteps hlimit (by omega)
    have hsize := hcut.size_eq
    refine ⟨fun hfits ↦ by omega, fun _ ↦ ⟨_, steps, hstored, hcut, by omega⟩, ?_⟩
    have hpoints : "...".utf8ByteSize = 3 := by decide
    rw [hstored, String.utf8ByteSize_append]
    omega
  · have hstored : stored = message := shorten_of_le hfits
    refine ⟨fun _ ↦ hstored, fun hlong ↦ by omega, ?_⟩
    rw [hstored]
    omega

end Log

end Lexeme
