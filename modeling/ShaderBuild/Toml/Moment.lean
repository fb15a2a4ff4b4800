import ShaderBuild.Toml.Digits

namespace ShaderBuild.Toml

/-!
# Dates and times

A date, a time, or both with a mark between them and perhaps an offset from
universal time. They are read into one notation, with a capital T for the mark.
-/

/-- How many days a month has. -/
def monthLength (year month : Nat) : Nat :=
  if month = 2 then
    if year % 4 = 0 && (year % 100 ≠ 0 || year % 400 = 0) then 29 else 28
  else if month = 4 || month = 6 || month = 9 || month = 11 then 30
  else 31

/-- A number with zeros in front. -/
def padded (width number : Nat) : String :=
  let digits := Nat.toDigits 10 number
  String.ofList (List.replicate (width - digits.length) '0' ++ digits)

/-- A date; what starts with a year and a hyphen is one. -/
def date (text : List Char) : Reading (Parsed String) := do
  let (year, rest) ← fixedDigits 4 text
  let rest ← expect ['-'] rest
  committed do
    let (month, rest) ← boundedDigits 2 1 12 rest
    let rest ← expect ['-'] rest
    let (day, rest) ← boundedDigits 2 1 (monthLength year month) rest
    return (padded 4 year ++ "-" ++ padded 2 month ++ "-" ++ padded 2 day, rest)

/-- The fraction of a second: nine digits count, and zeros at the end are left out. -/
def fraction (text : List Char) : String × List Char :=
  match text with
  | '.' :: rest =>
      match rest.span Char.isDigit with
      | ([], _) => ("", text)
      | (digits, rest) =>
          match ((digits.take 9).reverse.dropWhile (· = '0')).reverse with
          | [] => ("", rest)
          | digits => ("." ++ String.ofList digits, rest)
  | _ => ("", text)

/-- A time of day; what starts with an hour and a colon is one. -/
def time (text : List Char) : Reading (Parsed String) := do
  let (hour, rest) ← boundedDigits 2 0 23 text
  let rest ← expect [':'] rest
  committed do
    let (minute, rest) ← boundedDigits 2 0 59 rest
    let rest ← expect [':'] rest
    let (second, rest) ← boundedDigits 2 0 60 rest
    let (fraction, rest) := fraction rest
    return (padded 2 hour ++ ":" ++ padded 2 minute ++ ":" ++ padded 2 second ++ fraction, rest)

/-- The offset of a time from universal time, if there is one. -/
def offset (text : List Char) : Reading (Parsed String) :=
  match text with
  | [] => .ok ("", [])
  | c :: rest =>
      if c = 'Z' || c = 'z' then
        .ok ("Z", rest)
      else if c = '+' || c = '-' then
        committed <| labelled "time offset" do
          let (hour, rest) ← boundedDigits 2 0 23 rest
          let rest ← expect [':'] rest
          let (minute, rest) ← boundedDigits 2 0 59 rest
          let sign := if c = '-' && hour + minute ≠ 0 then "-" else "+"
          return (sign ++ padded 2 hour ++ ":" ++ padded 2 minute, rest)
      else
        .ok ("", text)

/-- The mark between a date and a time, a time, and an offset if there is one. -/
def markedTime (text : List Char) : Reading (Parsed String) :=
  match text with
  | mark :: rest =>
      if mark = 'T' || mark = 't' || mark = ' ' then do
        let (time, rest) ← time rest
        let (offset, rest) ← offset rest
        return ("T" ++ time ++ offset, rest)
      else
        stopAt text
  | [] => stopAt text

/-- A date, and a time after it if there is one. -/
def dateAndTime (text : List Char) : Reading (Parsed String) := do
  let (date, rest) ← date text
  match ← optional (markedTime rest) with
  | some (time, rest) => return (date ++ time, rest)
  | none => return (date, rest)

/-- A date, a time, or a date and a time. -/
def moment (text : List Char) : Reading (Parsed String) :=
  orElse (labelled "date-time" (dateAndTime text)) (labelled "time" (time text))

end ShaderBuild.Toml
