import Switchyard.Unicode.RunTable

/-!
# Combining marks

The characters whose general category is a kind of mark: they attach to the character before
them, so no label of a domain name starts with one.
-/

namespace Switchyard

/-- Stretches of marks (`Y`) and of other characters (`N`). -/
def markTable : RunTable := .ofText
  "NlcY34N7nY7N7bY19N1Y1N1Y2N1Y2N1Y1N20YbN1cYlNgY1N2tY7N2Y6N2Y2N1Y4NzY1NuYrN2jYbN1mY9N9Y1NoY4N1
    Y9N1Y3N1Y5N17Y3N1nY9N16YoN1YxN1iY3N1YiN1Y7NaY2NtY3N1kY1N1Y7N2Y2N2Y3N9Y1NaY2NqY1N2Y3N1kY1N1Y5
    N4Y2N2Y3N3Y1NuY2N3Y1NbY3N1kY1N1Y8N1Y3N1Y3NkY2NmY6N1Y3N1kY1N1Y7N2Y2N2Y3N7Y3NaY2NuY1N1nY5N3Y3
    N1Y4N9Y1N14Y5N1jY1N1Y7N1Y3N1Y4N7Y2NbY2NtY3N1kY1N1Y7N1Y3N1Y4N7Y2NbY2NfY1NcY4N1jY2N1Y7N1Y3N1Y4
    N9Y1NaY2NtY3N1yY1N4Y6N1Y1N1Y8NiY2N1pY1N2Y7NcY8N2qY1N2Y9NbY7N21Y2NrY1N1Y1N1Y1N4Y2N1dYkN1Y2N5
    YbN1Y10N9Y1N2sYkNnY4N4Y3N1Y3N2Y7N3Y4NdYcN1Y1NaY4NjjY3NqaY4NsY3NtY2NuY2N1sYwN9Y1N19Y3N1Y1N39
    Y2NyY1N3aYcN4YcN63Y5N1lYaN1YtN2Y1N1cY1aN2YcNkY5N1bYhN12Y9NcY3NuYdN1kYeN1cYkN48Y3N1YlN4Y1N6Y1
    N2Y3N5iY1sNk0YxN2daY3N3xY1N2oYwNfeY6N2xY2Nn9wY4N1YaNwY2N28Y2N7kY1N3Y1N4Y1NnY5N4Y1N2bY2N1eYi
    NqYiNdY1N12Y8NpYdN18Y4N1bYeN10Y1N1vYeNcY1N8Y2N19Y3N1eY1N1Y3N2Y2N5Y2N1Y1N15Y5N5Y2N6kY8N1Y2
    Nfn4Y1NkhYgNgYgNr1Y1N6aY1N45Y5N1aeY3N1Y2N5Y4N14Y3N4Y1N4lY2NfxY4N1tY5N8tY2N25Y6N1yYbN1dY4N3e
    Y3N1hYfN15Y1N2Y2NaY4N19YbN7Y1N1pY3N10YeNgY2N18Y1NcY3N1cYeN8Y4N1Y2N2kYcN6Y1N2Y1N4dYcNlY4N1jY2
    N1Y7N2Y2N2Y3N9Y1NaY2N2Y7N3Y5N1vY9N1Y1N2Y1N1Y4N1Y5N1Y1NeY2N2aYiNnY1N29YkN6jY7N2Y9NrY2N2aYhN2y
    YdN2tYfN74YfN6tY6N1Y2N2Y4N1Y1N1Y2N3xY7N2Y7N3Y1NsYaN14Y7N1Y4N8Y1N9YbN1aYgN5iY8N5jY8N1Y8N2aYm
    N1YeN3eY6N3Y1N1Y2N1Y7N1Y1N1uY5N1Y2N1Y5N9nY4N9Y2N1Y1N1cY7N3Y5NnY1N44lY1N6YfN8ugYiN1xcY5N1nY7
    Nt4Y1N1Y1jN7Y4N29Y1NbY2Nf57Y2N3mpY1aN2YnNf2Y5N3Y6N8Y8N2Y7NuY4N44Y3N1izY1jN4Y1eN8Y1NeY1NmY5N1
    YfN11sY7N1YhN2Y7N1Y2N1Y5N2sY1N4gY7NafY1N1pY4Ne4Y4N72Y2N6rY1N2Y1N7Y2N5Y1Nd6Y7N31Y7NgzhxY6o
    N47bk"

def isMark (c : Char) : Bool := markTable.kindOf c == 'Y'

end Switchyard
