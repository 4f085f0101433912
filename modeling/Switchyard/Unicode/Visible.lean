import Switchyard.Unicode.RunTable

/-!
# Visible characters

A character is shown as it is unless it is a control or format character, a separator other than
the space, unassigned, or extends the character before it.
-/

namespace Switchyard

/-- Stretches of characters that are not shown as they are (`Y`) and of those that are (`N`). -/
def hiddenTable : RunTable := .ofText
  "YwN2nYyNcY1NgiY34N8Y2N6Y4N7Y1N1Y1NkY1N68Y7N4mY1N12Y2N1eY2N3Y1aN1Y1N1Y2N1Y2N1Y9NrY4N6YhNaYbN1
    Y1N1aYlNgY1N2tY8N1Y6N2Y2N1Y4NwY2N1Y1NuYtN2hYbN1YeN17Y9N7Y3NoY4N1Y9N1Y3N1Y7NfY1NpY5N1Y1NbY5Nw
    YgN16Y1lN1jY1N1Y1N4Y8N4Y1N3Y7NaY2NtY1N2Y1N8Y2N2Y2NmY1N7Y1N1Y3N4Y3N1Y1N2Y6N2Y2N2Y1N1YdN2Y1N3
    Y4NoY5N1Y1N6Y4N2Y2NmY1N7Y1N2Y1N2Y1N2Y4N3YoN4Y1N1Y7NaY2N3Y1N1YcN1Y1N9Y1N3Y1NmY1N7Y1N2Y1N5Y3N4
    Y8N1Y1N2Y3N1YfN2Y4NcY7N1Y8N2Y1N8Y2N2Y2NmY1N7Y1N2Y1N5Y3N1Y2N1Y6N2Y2N2YfN2Y1N3Y4NiYbN1Y1N6Y3N3
    Y1N4Y3N2Y1N1Y1N2Y3N2Y3N3Y3NcY5N1Y1N2Y3N3Y1N3Y3N1YlNlY6N3Y1N8Y1N3Y1NnY1NgY3N1Y3N4YjN3Y1N2Y2N2
    Y4NaY7NaY1NbY1N3Y1NnY1NaY1N5Y3N2Y2N1Y1N2YnN3Y1N2Y4NaY1N3YeNbY1N3Y1N15Y2N1Y1N2Y5N3Y1N3Y1N2Y4
    N3Y1NaY4NqY2N2Y1NiY3NoY1N9Y1N1Y2N7Y9N2Y6N7Y7NaY2N3YcN1cY1N2YbN8Y8NdY11N2Y1N1Y1N5Y1NoY1N1Y1Na
    Y1N2Y9N1Y2N5Y1N1Y9NaY2N4YwNoY2NrY1N1Y1N1Y1NeY1N10YiN1Y5N1Y2N5Y1dN8Y1N6Y1NdY11N19Y4N1Y6N1Y2N2
    Y2NpY2N4Y3NgY4NdY1N2Y2N6Y1NfY1N14Y1N1Y5N1Y2NahY1N4Y2N7Y1N1Y1N4Y2N15Y1N4Y2NxY1N4Y2N7Y1N1Y1N4
    Y2NfY1N1lY1N4Y2N1vY5NtY3NqY6N2eY2N6Y2NhsY1NsY3N2hY7NiYdNjY3N2Y9NiYeNdY1N3YfN1gY2N1Y7N8Y1N2Yb
    N9Y3NaY6NaY6NbY5NaY6N2hY7N5Y2NyY1N1Y5N1yYaNvY4N4Y2N3Y4N2Y1N6Y7N1Y3N16Y2N5YbN18Y4NqY6NbY3N1l
    Y2N2Y3N1kY1N1Y9N1Y1N2Y8N6YdNaY6NaY6NeY2eN1cYaN4Y3N8Y1NtY9NcY2NwY4N2Y6N1kY1N1Y2N3Y1N1YdN1cY8
    N2Y5NfY3N1qY5N17Y2NbYbN1YdN1Y7N4Y1N6Y1N3Y2N1Y5N5cY1sN7qY2N6Y2N12Y2N6Y2N8Y1N1Y1N1Y1N1Y1NvY2
    N1hY1NfY1NeY2N6Y1NjY2N3Y1N9YhNoY8N1bYhN2Y2NrY1NdY3NyY1qN3wY4NiiYmNbYlN1ecY2NahY3N2Y5N19Y1N1
    Y5N1Y2N1kY7N2YfNnY9N7Y1N7Y1N7Y1N7Y1N7Y1N7Y1N7Y1N7YxN2mYyNqY1N2hYcN5yYqNgY1N15Y6NgY1N2eY4N2t
    Y5N17Y1N2mY1N2eY9N1cY1NmlpY3N1jY9N9oYkN1bY4N1YaNwY2N28Y2N6Y8N65YkNhY1N3Y1N4Y1NpY2N5Y4NaY6N1k
    Y8N1wYaNcYoNdY1N12Y8NpYbN1YcNuY6N1cY1N2Y4N2Y2N2Y1NdY1NbY4N7Y1NpY1N15Y6N2Y2N2YbN3Y1N8Y1N1Y2Na
    Y2NwY1N1fY1N1Y3N2Y2N5Y2N1Y1N1YoNhY2N8YbN6Y2N6Y2N6Y9N7Y1N7Y1N1oY4N39Y1N2Y1N4Y3NaY6N8mcYcNnY4
    N1dY6isNa6Y2N2yY12N7YcN5Y5N1Y1NoY1N5Y1N1Y1N2Y1N2Y1Ni2YwNgYgNaYmNzY1NjY1N4Y4N5Y1N3rY4N4dY2Nv
    Y3N6Y2N6Y2N6Y2N3Y3N7Y1N7YdN2Y2NcY1NqY1NjY1N2Y1NfY2NeYyN3fY5N3Y4N19Y3N2gY1NdY3N1Y1bN19Y3nNtY3
    N1dYgNrY4N10Y9NuY5N12YaNuY1N11Y4NeY16N4eY2NaY6N10Y4N10Y4N14Y8N1gYbNcY1NfY1N7Y1N2Y1NbY1NfY1N7
    Y1N2Y3N1gYcN8nY9NmYaN8YoN6Y1N16Y1N9Y1xN6Y2N1Y1N18Y1N2Y3N1Y2NnY1N20Y8N9Y1cNjY1N2Y5NxY3NrY5Nr
    Y12N1kY4NkY2N1bYfN4Y1N3Y1NtYaN9Y7N9Y7N1sYwN11Y6NcY9N1iY3NtY2NrY5NqY7N4YcN7Y28N21Y1jN1fYdN1f
    Y7N16YcNaY6N12Y8NoY8N2Y5sNvY1N16Y3N1Y2N2YgN6Y8N9Y13N14Y8NmYbN9YmNiY4N4Y12NsYkNnY9N1Y1N1iYfN7
    Y4NuY1N2Y2N1YcN1dY4N2Y2N2Y1N4YeNpY7NaY9N10Y5N1Y9NiY8NzY1N3YbN1gY9N1Y1N8Y4N2Y1NgY1NkYbNiY1Ns
    Y3N2Y4N6Y1N2Y1rN7Y1N1Y1N4Y1NfY1NbY6N1bY1N3YdNaY8N2Y1N8Y2N2Y2NmY1N7Y1N2Y1N5Y3N1Y1N1Y1N4Y2N2Y2
    N2Y3N1YcN7YsNaY1N1Y2N1Y1N12Y1N1Y1N2YfN1Y1N2Y3N1Y1N3Y1N2Y13N1kY8N2Y3N1Y1NlY1N1Y1N3YuN1cY1N2Y6
    N1Y1N2Y1N1Y2N1Y2N4Y8NaY4mN1bY1N2Y6N4Y2N1Y2NrY10N1fY8N2Y1N1Y2N4YbNaY6NdYjN17Y1N1Y1N2Y8N2Y6Na
    Y6NkYsNrY3N1Y1N2Y4N1Y9NnY55N1bY9N1Y2N1Y2sN2bYcN8Y2N1Y2N8Y1N2Y1NoY1N5Y1N2Y6N4Y1N3Y9NaY1yN8Y2
    N16Y8N4Y1N4YrN1YaN14Y6N2Y4N8Y9N1Y6N2Y3N1aYdN1Y2N9YdN21Y7NaY2fN1Y3N1Y1N1Y2gNyYeNaY6N9Y1N12Ye
    N1Y1N6YaNtY3NwYpN1Y7N1Y2N1Y23N7Y1N2Y1N12YlN1Y9NaY6N6Y1N2Y1N11Y4N2Y1N1Y1N1Y7NaY6N18Y4NaY6uNj
    Y2N4Y9NfY1N10Y8N2Y3NnY2eN1YfN1eYdNpnY2uN33Y1N5YbN5gY218N2rYdNtsYhN6YpN32zY5Ng7Y5a1NuYcN3Y3Na
    Y1c6NftY7NvY1NaY4N29Y1NaY6NuY7N1YaN1cY7NfYaNaY1N7Y1NlY5NjYc0N1mY5iN2jY5NpY2NpY18N23Y5N1kYbNd
    Y1sN4YeN5Y9N5p2Y15NwY2pN37Y6ppN4Y1N7Y1N2Y1N83YfN1YtN3Y2N1YeN4Y8Nb0Y1s4N2zY5NdY3N9Y7NaY2N1Y2
    N1Y31cN71Y3Nc4Y6NnYfNhY2nN38Y1oN6uYaN13Y2N1oY5N3YmN2Y7NuY4N1pYlN1uY3N1Y3eNkYcNkYcN2fY9NpY3r
    N2dY1N1zY1N2Y2N1Y2N2Y2N4Y1NcY1N1Y1N7Y1N1tY1N4Y2N8Y1N7Y1NsY1N4Y1N5Y1N1Y3N7Y1N9gY2N84Y2NfmY1j
    N4Y1eN8Y1NeY1N7YvoNvY6N6Y79N1qY42N19YaN7Y2NaY4N2Y8wNuYiN18Y4NaY5N1YcwNsY4NaY5yNuY2NbY4N1Y5c
    NvY1N3Y1N2Y1N7Y2N5Y9N2Y68N7Y1N4Y1N2Y1NfY1N5hY2N9Y1cN1wY7N1Y4NaY4N2YltN1wY24N1pY5eN4Y1NrY1N2
    Y1N1Y2N1Y1NaY1N4Y1N1Y1N1Y6N1Y4N1Y1N1Y1N1Y1N3Y1N2Y1N1Y2N1Y1N1Y1N1Y1N1Y1N1Y1N2Y1N1Y2N4Y1N7Y1N4
    Y1N4Y1N1Y1NaY1NhY5N3Y1N5Y1NhY1gN2Y7iN18Y4N2sYcNfY2NfY1NfY1N11YaN4uY1kNtYdN18Y4N9Y7N2YeN6Y4a
    NrdY3NhY3NdY3N62Y6NcY4N1YfNcY4N1kY8NaY6N14Y8NuY2NcY4N2YeN9Y13N9kY8NeY2NdY3NbY3N1lY1N1Y4NgY2
    NcY4NaY7N43Y1N2vYslNwyoYwN3dqY2N4geY2N5rlYfNhaY1wiNf2Y15uN3t7Y5N6juYjdl2"

def isVisible (c : Char) : Bool := hiddenTable.kindOf c != 'Y'

end Switchyard
