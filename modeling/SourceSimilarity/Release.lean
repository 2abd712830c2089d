namespace SourceSimilarity.Release

def name : String := "copyscan"

def version : String := "1.0.0"

def line : String := s!"{name} {version}\n"

end SourceSimilarity.Release
