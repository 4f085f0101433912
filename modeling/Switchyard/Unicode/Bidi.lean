import Switchyard.Unicode.RunTable

/-!
# Bidirectional classes

Which way a character is written, as far as domain names ask.
-/

namespace Switchyard

/-- Stretches of one class, by the letter of `BidiClass`; `W` stands for the classes left out. -/
def bidiTable : RunTable := .ofText
  "B9W5BeW5O2T3O5S1C1S1C2EaC1O6LqO6LqO4B6W1BqC1O1T4O4L1O2B1O2T2E2O1L1O3E1L1O5LnO1LvO1LchO2L7Oe
    L2OeL5O9L1OhM34L4O2L8O1L5O2L1O1L32O1L3wM7L74O1L2O2T1R1M19R1M1R1M2R1M2R1M1R1kN6O2A1T2A1C1A1O2
    MbA1cMlNaT1N2A3M1A2tM7N1O1M6A2M2O1M4A2EaAnM1AuMrA2jMbAfR17M9R2O4R3M1RoM4R1M9R1M3R1M5R17M3R4
    A1cN2A6M8A16MoN1MwL1jM1L1M1L4M8L4M1L3M7LaM2LtM1L1mM1L4M4L8M1LkM2LeT2L7T1L2M1L2M2L1lM1L4M2L4
    M2L2M3L3M1LuM2L3M1LbM2L1lM1L4M5L1M2L4M1LkM2LdT1L8M6L1M1L1mM1L2M1L1M4L8M1L7M2LbM2LuM1L1pM1Lc
    M1L11O6T1O1L5M1L3M1L1jM1L1M3L5M3L1M4L7M2LbM2LkO7L2M1L1mM1LfM2LkM2LsM2L1lM2L4M4L8M1LkM2LtM1
    L20M1L7M3L1M1L2iM1L2M7L4T1L7M8L2qM1L2M9LbM7L21M2LrM1L1M1L1M1O4L1fMeL1M5L1M2L5MbL1M10L9M1L2u
    M4L1M6L1M2L2M2LpM2L4M3LgM4LdM1L2M2L6M1LfM1LjjM3L1cOaL2uO1LhrW1LqO2L39M3LtM2LuM2LuM2L1sM2L1M7
    L8M1L2MbL7T1L1M1LiOaL6ObM3B1M1L39M2LyM1L3aM3L4M2L9M1L6M3L4O1L3O2L48OyLnM2L2M1L1mM1L1M7L1M1L1
    M1L2M8L6MaL2M1L1cMvL1dM4L1cM1L1M5L1M1L5M1L14M9LcM2LwM4L2M2L1M3L1kM1L1M2L3M1L1M3L1mM8L2M2L48
    M3L1MdL1M7L4M1L6M1L3M2L5iM1sLcdO1L1O3LbO3LdO3LdO3LdO2L1WbB3L1R1OoW7C1T5OfC1OqW1B6W4B6E1L3E6
    S2O3L1EaS2O3LhT1cMxLfO2L1O4L1O2LaO1L1O3L5O6L1O1L1O1L1O1L4T1LbO2L4O5L5O4L2OgL15O3L4O3mS1T1O82
    L1xOqL1O41LpObLlO14EkL26OciL1O9fL74OhgL2OwL1O2xL6dO6L4M3L7O7L3jM1L2oMwO2mLyOqL1O2hLcO5yLqOc
    L4W1O4L3OpL9M4L2O1L5O2L5O3L2hM2O2L3O1L2iO1L5gO10L1lO2L1dOgLsO3L1eOfLcO4L4nO4L2rO2LvO1L534O1s
    Lh3kO1jL92O3L2nM4O1MaO2LuM2L28M2LeOyL2uO1L3dM1L3M1L4M1LpM2L1O4M1LbT2L1mO4L24M2LqMiLdM1L12M8
    LpMbL1aM3L1cM1L2M4L2M2L13M1L1vM6L2M2L2M2LcM1L8M1L1bM1L1fM1L1M3L2M2L5M2L1M1L16M2L8M1L37O2L3d
    M1L2M1L4M1Lfn3R1M1RaS1R12AdqOiA3jO1BwAdO3MgOaL6MgOwC1O1C1L1O1C1O9T1O2S2O3L1O1T2O1L4A3zB1L1O2
    T3O5S1C1S1C2EaC1O6LqO6LqObL3eT2O3T2L1O7L1B9O5B2L75O1L1qO25L3OdL3O1L2kM1L6aM1ErL3eM5Lw5R7zO1
    R69M3R1M2R5M4R14M3R4M1R4lM2R2aO7RcgA10M4A8NaA6R80NvR18M2RjA1pM3R1cAmMbAvRiM4R3eL1M1L1iMfLbOk
    LaM1L2M2LaM3L1dM4L2M2L7M1L1pM3L10M5L1M8L1qM1LcM2L1gM9LaM4L2M1L2nM3L2M1L1M2L6M1L2M1L4dM1L3M8
    LlM2L1lM2L3M1L11M7L3M5L5fM8L2M3L1M1LnM1L2cM6L1M1L4M2L1M2L6mM4L6M2L1M2LrM2L2dM8L2M1L1M2LvOd
    L1qM1L1M1L2M6L1M1L2tM3L2M4L1M5L77M9L1M2L74M2L1M1L4M1L40M4L2M2L4M1LwM6L2M2L14M6L2M4L8M1L9M6L2
    M3L1aMdL1M2LbaM7L1M6L2cMmL2M7L1M2L1M2L3eM6L3M1L1M2L1M7L1M1L20M2L3M1L1M1L9nM2LbM2L1gM5L5M1L1
    M1L42O8T4OhL40eM1L6MfLasaM5L1nM7Lt4M1L1rM4L27O1L1M1Lf5kM2L1B4L3mkM1aL2MnLf4M3L9B8M8L2M7LuM4
    L1nO2LlO1uM3O1L56O2fLp0O1L1lO1L1lO1L1lO1L1lO1LaE1eLe8M1jL4M1eL8M1LeM1LmM5L1MfL11sM7L1MhL2M7
    L1M2L1M5L2sM1L4gM7LafM1L1pM4LfT1LdoM4LlsR5sM7R31M7RmdA28R1sA28R4wA6oO2AeR74O18L4O2sLcOfL2Of
    L1OfL1O11LaEbO5LvO1L1mO6L1pO1L4yO6L4aOrcL4OhL3OdL3O3bL4O2nL6OcL4O1LfOcL4O1kL8OaL6O14L8OuL2O2
    L26O9gLcOeL2OdL3O9L7O1aL1O7L8OeL4O9L7O9L7O43L1O1jL11EaLskB2L1ekeB2L1ekeB2L1ekeB2L1ekeB2L1eke
    B2L1ekeB2L1ekeB2L1ekeB2L1ekeB2L1ekeB2L1ekeB2L1ekeB76M6oB2s0L1bemB2L1ekeB2L1ekeB2"

/-- The bidirectional classes that the rule for domain labels names. -/
inductive BidiClass
  | left | right | arabicLetter | arabicNumber | europeanNumber | europeanSeparator
  | commonSeparator | europeanTerminator | otherNeutral | boundaryNeutral | nonspacing | other
deriving DecidableEq, Repr

def bidiClass (c : Char) : BidiClass :=
  match bidiTable.kindOf c with
  | 'L' => .left
  | 'R' => .right
  | 'A' => .arabicLetter
  | 'N' => .arabicNumber
  | 'E' => .europeanNumber
  | 'S' => .europeanSeparator
  | 'C' => .commonSeparator
  | 'T' => .europeanTerminator
  | 'O' => .otherNeutral
  | 'B' => .boundaryNeutral
  | 'M' => .nonspacing
  | _ => .other

end Switchyard
