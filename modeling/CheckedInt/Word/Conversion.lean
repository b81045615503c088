import CheckedInt.Representation.Basic
import CheckedInt.Word.Basic

/-!
# Conversion between words and wide integers

* `Word.widen`: the wide integer of a word, which always exists.
* `Word.narrow?`: the word of a wide integer, if the type's range holds it.
* `Word.truncate`: the word of a wide integer's low bits, in range or not.
* `IntType.canRepresent`: the test whether a type's range holds a word of another type.
-/

namespace CheckedInt

namespace Word

variable {s : IntType}

/-- The wide integer of the same number. The word is first extended to 128 bits, by its sign or by
zeros. -/
def widen (w : Word s) : Wide :=
  if s.signed then
    Wide.ofSigned (w.bits.signExtend 128)
  else
    Wide.ofUnsigned (w.bits.setWidth 128)

/-- The word of the same number. A wide integer goes through its 128-bit two's complement, or
through plain binary if it has none. -/
def narrow? (t : IntType) (w : Wide) : Option (Word t) :=
  match w.toSigned? with
  | some p => ofInt? t p.toInt
  | none => w.toUnsigned?.bind fun p => ofInt? t p.toNat

/-- The word of the low bits. -/
def truncate (t : IntType) (w : Wide) : Word t := ofPattern t w.toPattern

end Word

/-- The type's range holds the number of the word. -/
def IntType.canRepresent (t : IntType) {s : IntType} (w : Word s) : Bool :=
  (Representation.machine t).contains w.widen

end CheckedInt
