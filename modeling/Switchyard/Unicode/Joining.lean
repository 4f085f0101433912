import Switchyard.Unicode.RunTable

/-!
# Joining types

How a letter of a cursive script joins its neighbours.
-/

namespace Switchyard

/-- Stretches of one joining type, by its letter; `U` is a character that does not join. -/
def joiningTable : RunTable := .ofText
  "U4tT1UgiT34U7nT7U7bT19U1T1U1T2U1T2U1T1U20TbU1T1U3D1U1R4D1R1D1R1D5R4DdU1D7R1D2TlUeD2T1R3U1R3
    DgRiD12R1D2R9D1R1D1R1D2R2U1R1T7U2T6U2T2U1T4R2UaD3U2D1UfT1R1T1D3R5D4R1D9R1D1R1D1R1D2R1TrU2R1
    DbR3DfR2D4R1D1R2D3R2D6U12TbUpDxT9U9T1UoT4U1T9U1T3U1T5UiR1D5R2D1R1DaR1D1R3T3U4D1U1D4U1R1D1R2
    U5RjU3D1U2D5R1U9T8DaR3U1R1D2R2D6R1DfU1ToU1TwU1jT1U1T1U4T8U4T1U3T7UaT2UtT1U1mT1U4T4U8T1UkT2Uq
    T1U2T2U1lT1U4T2U4T2U2T3U3T1UuT2U3T1UbT2U1lT1U4T5U1T2U4T1UkT2UmT6U1T1U1mT1U2T1U1T4U8T1U7T2Ub
    T2UuT1U1pT1UcT1U1eT1U3T1U1jT1U1T3U5T3U1T4U7T2UbT2UtT1U1mT1U2T1U6T1U5T2UkT2UsT2U1lT2U4T4U8T1
    UkT2UtT1U20T1U7T3U1T1U2iT1U2T7UcT8U2qT1U2T9UbT7U21T2UrT1U1T1U1T1U1jTeU1T5U1T2U5TbU1T10U9T1
    U2uT4U1T6U1T2U2T2UpT2U4T3UgT4UdT1U2T2U6T1UfT1UjjT3UqaT3UtT2UuT2UuT2U1sT2U1T7U8T1U2TbU9T1U15
    D1U3T3U1T1UgD2hUcT2DyT1D1U39T3U4T2U9T1U6T3U63T2U2T1U1mT1U1T7U1T1U1T1U2T8U6TaU2T1U1cTvU1dT4
    U1cT1U1T5U1T1U5T1U14T9UcT2UwT4U2T2U1T3U1kT1U1T2U3T1U1T3U1mT8U2T2U48T3U1TdU1T7U4T1U6T1U3T2U5i
    T1sUejT1U2T2UqT5U1dT5U5T6U2oTxU2daT3U3xT1U2oTwUfeT4U2zT2Un9wT4U1TaUwT2U28T2U7kT1U3T1U4T1UpT2
    U5T1UjD1eL1U29T2UqTiUdT1U12T8UpTbU1aT3U1cT1U2T4U2T2U13T1U1vT6U2T2U2T2UcT1U8T1U1bT1U1fT1U1T3
    U2T2U5T2U1T1U16T2U8T1U6mT1U2T1U4T1Ufn4T1UkhTgUgTgU5rT1U6xT3Ue9T1U6aT1U45T5U1aeT3U1T2U5T4U14
    T3U4T1U3kD5R1U1R1U1R2U2L1R5D4L1D5R1D3R1U2R1T2U4D4R1U40D1R1D1R3D3R1D2R1D1R2D1R1UnR4D2U9dL1Dx
    R1D1T4UarT2U28T3U1cD3R1DhU1TbD3R1UrD4R2DcT4U16D1U1D2R3U1D1R2D2R1D2U1D1R2D1U4R1D1L1U1hT1U1iTf
    U15T1U2T2UaT3U1dT4U2T2U7T1U1pT3U10T5U1T8U1qT1UcT2U1gT9UaT4U2T1U2nT3U2T1U1T2U6T1U2T1U4dT1U3T8
    UlT2U1lT2U3T1U11T7U3T5U5fT8U2T3U1T1UnT1U2cT6U1T1U4T2U1T2U6mT4U6T2U1T2UrT2U2dT8U2T1U1T2U2yT1
    U1T1U2T6U1T1U2tT3U2T4U1T5U77T9U1T2U74T2U1T1U4T1U40T4U2T2U4T1UwTaU14T6U2T4U8T1U9T6U2T3U1aTdU1
    T2UbaT7U1T6U1T1U2aTmU2T7U1T2U1T2U3eT6U3T1U1T2U1T7U1T1U20T2U3T1U1T1U9nT2UbT2U1gT5U5T1U1T1U44t
    ThU6TfUasaT5U1nT7Ut4T1U1rT4U29T1Uf5kT2U1T4U3mkT1aU2TnUf4T3U9TgU2T7UuT4U44T3U1izT1jU4T1eU8T1
    UeT1UmT5U1TfU11sT7U1ThU2T7U1T2U1T5U2sT1U4gT7UafT1U1pT4Ue4T4UrkT7U15D1wT8UgzatT1UuT2oU3kT6o
    U47bk"

/-- How a character joins: on its left, its right, both sides, or looked through. -/
inductive JoiningType
  | left | right | dual | transparent | none
deriving DecidableEq, Repr

def joiningType (c : Char) : JoiningType :=
  match joiningTable.kindOf c with
  | 'L' => .left
  | 'R' => .right
  | 'D' => .dual
  | 'T' => .transparent
  | _ => .none

end Switchyard
