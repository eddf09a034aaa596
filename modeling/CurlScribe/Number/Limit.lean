namespace CurlScribe.Numeral

def maxDigits : Nat := 4300

def tooLong (digits : Nat) : String :=
  "Exceeds the limit (4300 digits) for integer string conversion: value has " ++ toString digits
    ++ " digits; use sys.set_int_max_str_digits() to increase the limit"

end CurlScribe.Numeral
